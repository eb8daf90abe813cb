import Mathlib
import R2opl.Python
import R2opl.Lib.Dict

/-!
# Question records

`load_question_answer_records` (`utils/custom_dataset.py`) reads one JSON file of
questions and answers and selects data sets by name; `load_question_records`
(`utils/evaluation.py`) puts several files together.  Both check that every requested
data set occurs, the first one file by file.
-/

namespace R2opl

open Checked

/-! ### One file -/

/-- A JSON value as the loaders tell them apart. -/
inductive JsonValue where
  | null
  | str (text : PyStr)
  | array (items : List JsonValue)
  | object (entries : List (PyStr × JsonValue))
  /-- A number or a boolean, by its literal. -/
  | literal (text : PyStr)

namespace JsonValue

/-- `value.get(key)` of an object. -/
def get? (entries : List (PyStr × JsonValue)) (key : String) : Option JsonValue :=
  Dict.get? entries key.toList

end JsonValue

/-- What the loaders use of Python on values they do not look into: `str` and `int`. -/
structure JsonText where
  str : JsonValue → PyStr
  int : JsonValue → Except PyError Int
  reprNames : List PyStr → String

structure QuestionRecord where
  question : PyStr
  answer : PyStr
  dataSource : PyStr
  sampleId : PyStr
  taskType : PyStr
deriving DecidableEq, Repr

/-- A file: its path as text, `path.stem`, and the JSON value it holds. -/
structure QuestionFile where
  path : String
  stem : PyStr
  payload : JsonValue

section Load

variable (json : JsonText)

/-- `str(value)`, which of a string is the string itself. -/
def JsonText.text (json : JsonText) : JsonValue → PyStr
  | .str text => text
  | value => json.str value

/-- `str(item.get(key, ""))`. -/
def textField (entries : List (PyStr × JsonValue)) (key : String) : PyStr :=
  ((JsonValue.get? entries key).map json.text).getD []

/-- A text that must not be blank, without the space around it. -/
def requiredText (text : Option PyStr) (message : String) : Except PyError PyStr :=
  match text with
  | none => .error (valueError message)
  | some text => if strip text = [] then .error (valueError message) else .ok (strip text)

def questionText (entries : List (PyStr × JsonValue)) : Option PyStr :=
  match JsonValue.get? entries "question" with
  | some (.str text) => some text
  | _ => none

def answerText (entries : List (PyStr × JsonValue)) : Option PyStr :=
  match JsonValue.get? entries "answer" with
  | none => none
  | some .null => none
  | some value => some (json.text value)

/-- `_validated_item` -/
def validatedItem (item : JsonValue) (source : String) (index : Nat) (datasetName : PyStr) :
    Except PyError QuestionRecord :=
  match item with
  | .object entries => do
      let question ← requiredText (questionText entries)
        s!"{source}: item {index} has an empty question"
      let answer ← requiredText (answerText json entries)
        s!"{source}: item {index} has an empty answer"
      return { question, answer, dataSource := datasetName
               sampleId := textField json entries "id"
               taskType := textField json entries "type" }
  | _ => .error (valueError s!"{source}: item {index} must be an object")

/-- `_normalize_dataset_names` on a list of names. -/
def normalizeDatasetNames (datasetNames : Option (List PyStr)) :
    Except PyError (Option (List PyStr)) :=
  match datasetNames with
  | none => .ok none
  | some given => do
      let names := given.map strip
      raiseIf (names = [] ∨ [] ∈ names)
        (valueError "dataset_names must contain at least one non-empty name")
      let duplicates := (names.filter fun name => 1 < names.count name).eraseDups.mergeSort
      raiseIf (duplicates ≠ []) (valueError ("dataset_names contains duplicates: " ++
        ", ".intercalate (duplicates.map String.ofList)))
      return some names

/-- `_select_dataset_records` -/
def selectDatasetRecords (records : List QuestionRecord) (datasetNames : Option (List PyStr))
    (source : String) : Except PyError (List QuestionRecord) := do
  match ← normalizeDatasetNames datasetNames with
  | none => return records
  | some requested =>
      let byName := Dict.groupBy QuestionRecord.dataSource [] records
      let missing := requested.filter fun name => name ∉ Dict.keys byName
      let available := if byName = [] then "<none>"
        else ", ".intercalate ((Dict.keys byName).map String.ofList)
      raiseIf (missing ≠ []) (valueError
        s!"{source}: unknown dataset_names {json.reprNames missing}; available datasets: {available}")
      return requested.flatMap fun name => (Dict.get? byName name).getD []

/-- `group.get("items")`, if it is a list. -/
def groupItems (entries : List (PyStr × JsonValue)) : Option (List JsonValue) :=
  match JsonValue.get? entries "items" with
  | some (.array items) => some items
  | _ => none

/-- One group of the combined container. -/
def loadGroup (source : String) (groupIndex : Nat) (group : JsonValue) :
    Except PyError (List QuestionRecord) :=
  match group with
  | .object entries => do
      let datasetName := strip (textField json entries "dataset_name")
      raiseIf (datasetName = [] ∨ (groupItems entries).isNone)
        (valueError s!"{source}: group {groupIndex} requires dataset_name and items")
      let items := (groupItems entries).getD []
      let declaredCount ← match JsonValue.get? entries "num_samples" with
        | none => Except.ok (items.length : Int)
        | some value => json.int value
      raiseIf (declaredCount ≠ items.length) (valueError
        s!"{source}: {String.ofList datasetName} declares {declaredCount} samples but contains {items.length}")
      items.zipIdx.mapM fun (item, itemIndex) =>
        validatedItem json item source itemIndex datasetName
  | _ => .error (valueError s!"{source}: group {groupIndex} must be an object")

/-- One item of the plain list, whose data set is its type or the name of the file. -/
def loadItem (file : QuestionFile) (index : Nat) (item : JsonValue) :
    Except PyError QuestionRecord :=
  let typeName := match item with
    | .object entries => strip (textField json entries "type")
    | _ => []
  validatedItem json item file.path index (if typeName = [] then file.stem else typeName)

/-- `payload and isinstance(payload[0], dict) and "items" in payload[0]`. -/
def isContainer : List JsonValue → Bool
  | .object entries :: _ => (JsonValue.get? entries "items").isSome
  | _ => false

/-- All records of a file, in either layout. -/
def allRecords (file : QuestionFile) (payload : List JsonValue) :
    Except PyError (List QuestionRecord) :=
  if isContainer payload then do
    let groups ← payload.zipIdx.mapM fun (group, groupIndex) =>
      loadGroup json file.path groupIndex group
    return groups.flatten
  else payload.zipIdx.mapM fun (item, index) => loadItem json file index item

def loadQuestionAnswerRecords (file : QuestionFile) (datasetNames : Option (List PyStr)) :
    Except PyError (List QuestionRecord) :=
  match file.payload with
  | .array payload => do
      let records ← allRecords json file payload
      selectDatasetRecords json records datasetNames file.path
  | _ => .error (valueError s!"{file.path} must contain a JSON list")

/-! ### Several files -/

structure EvaluationQuestion where
  dataset : PyStr
  questionIndex : Nat
  question : PyStr
  answer : PyStr
deriving DecidableEq, Repr

/-- The questions of one data set, numbered in order. -/
def numberedQuestions (datasetName : PyStr) (items : List QuestionRecord) :
    List EvaluationQuestion :=
  items.mapIdx fun questionIndex item =>
    ⟨datasetName, questionIndex, item.question, item.answer⟩

/-- The second check, and the questions with their counts. -/
def questionsByDataset (datasetNames : List PyStr) (itemsOf : PyStr → List QuestionRecord) :
    Except PyError (List EvaluationQuestion × List (PyStr × Nat)) := do
  let missing := datasetNames.filter fun name => itemsOf name = []
  raiseIf (missing ≠ []) (valueError
    s!"data.val_datasets selected benchmarks with no records: {json.reprNames missing}")
  return (datasetNames.flatMap fun name => numberedQuestions name (itemsOf name),
    datasetNames.map fun name => (name, (itemsOf name).length))

/-- `load_question_records`, on the configured data sets and files. -/
def loadQuestionRecords (datasetNames : List PyStr) (valFiles : List QuestionFile) :
    Except PyError (List EvaluationQuestion × List (PyStr × Nat)) := do
  let loaded ← valFiles.mapM fun file => loadQuestionAnswerRecords json file (some datasetNames)
  let byDataset := Dict.groupBy QuestionRecord.dataSource
    (Dict.ofPairs (datasetNames.map fun name => (name, []))) loaded.flatten
  questionsByDataset json datasetNames fun name => (Dict.get? byDataset name).getD []

end Load

/-! ### What is selected -/

/-- Data set names as the configuration accepts them. -/
structure ValidDatasetNames (names : List PyStr) : Prop where
  ne_nil : names ≠ []
  stripped : ∀ name ∈ names, strip name = name
  nonempty : ∀ name ∈ names, name ≠ []
  nodup : names.Nodup

/-- Some record belongs to the data set. -/
def HoldsDataset (records : List QuestionRecord) (name : PyStr) : Prop :=
  ∃ record ∈ records, record.dataSource = name

/-- The records of a data set, in order. -/
def recordsOf (records : List QuestionRecord) (name : PyStr) : List QuestionRecord :=
  records.filter fun record => record.dataSource = name

theorem recordsOf_ne_nil {records : List QuestionRecord} {name : PyStr} :
    recordsOf records name ≠ [] ↔ HoldsDataset records name := by
  unfold recordsOf HoldsDataset
  rw [ne_eq, List.filter_eq_nil_iff]
  simp

theorem recordsOf_flatten (name : PyStr) (parts : List (List QuestionRecord)) :
    recordsOf parts.flatten name = (parts.map fun part => recordsOf part name).flatten := by
  unfold recordsOf
  rw [List.filter_flatten]

section Select

variable {json : JsonText} {names : List PyStr}

theorem normalizeDatasetNames_valid (h : ValidDatasetNames names) :
    normalizeDatasetNames (some names) = .ok (some names) := by
  have hmap : names.map strip = names :=
    (List.map_congr_left h.stripped).trans (List.map_id names)
  have hduplicates : (names.filter fun name => 1 < names.count name) = [] := by
    apply List.filter_eq_nil_iff.mpr
    intro name _ hcount
    have hle := List.nodup_iff_count_le_one.mp h.nodup name
    have hlt := of_decide_eq_true hcount
    omega
  unfold normalizeDatasetNames
  dsimp only
  rw [hmap, hduplicates, raiseIf_of_not, ok_bind, raiseIf_of_not]
  · rfl
  · simp
  · rintro (hnil | hempty)
    · exact h.ne_nil hnil
    · exact h.nonempty [] hempty rfl

theorem getD_groupBy_records (name : PyStr) (records : List QuestionRecord)
    (groups : List (PyStr × List QuestionRecord)) :
    (Dict.get? (Dict.groupBy QuestionRecord.dataSource groups records) name).getD [] =
      (Dict.get? groups name).getD [] ++ recordsOf records name :=
  Dict.getD_groupBy _ _ _ _

/-- Names that all occur select their records, name by name. -/
theorem selectDatasetRecords_eq_ok (h : ValidDatasetNames names)
    {records selected : List QuestionRecord} {source : String} :
    selectDatasetRecords json records (some names) source = .ok selected ↔
      (∀ name ∈ names, HoldsDataset records name) ∧ selected = names.flatMap (recordsOf records) := by
  unfold selectDatasetRecords
  rw [normalizeDatasetNames_valid h, ok_bind]
  simp only [raiseIf_bind_eq_ok, pure_eq_ok, Except.ok.injEq, not_not, ne_eq]
  have hmissing : (names.filter fun name =>
      decide (name ∉ Dict.keys (Dict.groupBy QuestionRecord.dataSource [] records))) = [] ↔
      ∀ name ∈ names, HoldsDataset records name := by
    rw [List.filter_eq_nil_iff]
    apply forall₂_congr
    intro name _
    rw [decide_eq_true_eq, not_not, Dict.mem_keys_groupBy]
    exact or_iff_right List.not_mem_nil
  have hgroups : (names.flatMap fun name =>
      (Dict.get? (Dict.groupBy QuestionRecord.dataSource [] records) name).getD []) =
      names.flatMap (recordsOf records) := by
    apply congrArg (fun select => names.flatMap select)
    funext name
    rw [getD_groupBy_records]
    rfl
  rw [hmissing, hgroups, eq_comm (a := selected)]

/-- Selection comes after all records of the file have been read. -/
theorem loadQuestionAnswerRecords_select {file : QuestionFile}
    {records : List QuestionRecord}
    (h : loadQuestionAnswerRecords json file none = .ok records) :
    loadQuestionAnswerRecords json file (some names) =
      selectDatasetRecords json records (some names) file.path := by
  unfold loadQuestionAnswerRecords at h ⊢
  cases hpayload : file.payload with
  | array payload =>
    simp only [hpayload] at h ⊢
    obtain ⟨read, hread, hselect⟩ := bind_eq_ok.mp h
    obtain rfl : read = records := Except.ok.inj hselect
    rw [hread, ok_bind]
  | null => simp [hpayload] at h
  | str text => simp [hpayload] at h
  | object entries => simp [hpayload] at h
  | literal text => simp [hpayload] at h

end Select

/-! ### The union -/

/-- The questions the union of the files holds, by data set and in file order. -/
def unionQuestions (names : List PyStr) (all : List QuestionRecord) :
    List EvaluationQuestion × List (PyStr × Nat) :=
  (names.flatMap fun name => numberedQuestions name (recordsOf all name),
    names.map fun name => (name, (recordsOf all name).length))

section Union

variable {json : JsonText} {names : List PyStr} {files : List QuestionFile}
  {records : QuestionFile → List QuestionRecord}

/-- Each file is selected by itself, so every file must hold every name. -/
theorem mapM_loadQuestionAnswerRecords (h : ValidDatasetNames names)
    (hwell : ∀ file ∈ files, loadQuestionAnswerRecords json file none = .ok (records file))
    {loaded : List (List QuestionRecord)} :
    (files.mapM fun file => loadQuestionAnswerRecords json file (some names)) = .ok loaded ↔
      (∀ file ∈ files, ∀ name ∈ names, HoldsDataset (records file) name) ∧
        loaded = files.map fun file => names.flatMap (recordsOf (records file)) := by
  rw [mapM_eq_ok]
  induction files generalizing loaded with
  | nil =>
    rw [List.forall₂_nil_left_iff]
    simp
  | cons file files ih =>
    have hfile : loadQuestionAnswerRecords json file (some names) =
        selectDatasetRecords json (records file) (some names) file.path :=
      loadQuestionAnswerRecords_select (hwell file List.mem_cons_self)
    have hothers := fun other hother => hwell other (List.mem_cons_of_mem file hother)
    have hrest := fun others : List (List QuestionRecord) => @ih hothers others
    rw [List.forall₂_cons_left_iff]
    constructor
    · rintro ⟨selected, others, hselect, hothers, rfl⟩
      rw [hfile, selectDatasetRecords_eq_ok h] at hselect
      obtain ⟨hcontains, rfl⟩ := hselect
      obtain ⟨hall, rfl⟩ := (hrest others).mp hothers
      exact ⟨List.forall_mem_cons.mpr ⟨hcontains, hall⟩, rfl⟩
    · rintro ⟨hall, rfl⟩
      obtain ⟨hcontains, hothers⟩ := List.forall_mem_cons.mp hall
      refine ⟨_, _, ?_, (hrest _).mpr ⟨hothers, rfl⟩, rfl⟩
      rw [hfile, selectDatasetRecords_eq_ok h]
      exact ⟨hcontains, rfl⟩

/-- Selecting by distinct names keeps the records of each name. -/
theorem recordsOf_flatMap_recordsOf (hnodup : names.Nodup) {name : PyStr} (hname : name ∈ names)
    (all : List QuestionRecord) :
    recordsOf (names.flatMap (recordsOf all)) name = recordsOf all name := by
  have hother : ∀ {other : PyStr}, other ≠ name → recordsOf (recordsOf all other) name = [] := by
    intro other hne
    unfold recordsOf
    rw [List.filter_filter]
    apply List.filter_eq_nil_iff.mpr
    intro record _ hboth
    rw [Bool.and_eq_true, decide_eq_true_eq, decide_eq_true_eq] at hboth
    exact hne (hboth.2.symm.trans hboth.1)
  have hself : recordsOf (recordsOf all name) name = recordsOf all name := by
    unfold recordsOf
    rw [List.filter_filter]
    simp
  have hselect : recordsOf (names.flatMap (recordsOf all)) name =
      names.flatMap fun other => recordsOf (recordsOf all other) name := by
    unfold List.flatMap
    rw [recordsOf_flatten, List.map_map]
    rfl
  rw [hselect, Dict.flatMap_eq_single hnodup hname fun other _ hne => hother hne, hself]

/-- The data set of a file list: every requested name occurs in some file. -/
def CoversNames (names : List PyStr) (files : List QuestionFile)
    (records : QuestionFile → List QuestionRecord) : Prop :=
  ∀ name ∈ names, ∃ file ∈ files, HoldsDataset (records file) name

theorem getD_ofPairs_nil (names : List PyStr) (name : PyStr) :
    (Dict.get? (Dict.ofPairs (names.map fun name => (name, ([] : List QuestionRecord))))
      name).getD [] = [] := by
  cases hget : Dict.get? (Dict.ofPairs (names.map fun name =>
      (name, ([] : List QuestionRecord)))) name with
  | none => rfl
  | some items =>
    obtain ⟨other, _, heq⟩ := List.mem_map.mp (Dict.mem_of_mem_ofPairs (Dict.mem_of_get? hget))
    exact (congrArg Prod.snd heq).symm

/-- The second check passes on names that all have records. -/
theorem questionsByDataset_of_ne_nil {itemsOf : PyStr → List QuestionRecord}
    {all : List QuestionRecord} (hitems : ∀ name ∈ names, itemsOf name = recordsOf all name)
    (hnonempty : ∀ name ∈ names, recordsOf all name ≠ []) :
    questionsByDataset json names itemsOf = .ok (unionQuestions names all) := by
  have hmissing : (names.filter fun name => itemsOf name = []) = [] := by
    apply List.filter_eq_nil_iff.mpr
    intro name hname hempty
    apply hnonempty name hname
    rw [← hitems name hname]
    exact of_decide_eq_true hempty
  have hquestions : (names.flatMap fun name => numberedQuestions name (itemsOf name)) =
      names.flatMap fun name => numberedQuestions name (recordsOf all name) :=
    List.flatMap_congr fun name hname => by rw [hitems name hname]
  have hcounts : (names.map fun name => (name, (itemsOf name).length)) =
      names.map fun name => (name, (recordsOf all name).length) :=
    List.map_congr_left fun name hname => by rw [hitems name hname]
  unfold questionsByDataset
  dsimp only
  rw [hmissing, raiseIf_of_not (fun hne => hne rfl), ok_bind, pure_eq_ok, hquestions, hcounts,
    unionQuestions]

/-- The counts are those of the requested names, which all have records. -/
theorem loadQuestionRecords_counts {questions : List EvaluationQuestion}
    {counts : List (PyStr × Nat)}
    (h : loadQuestionRecords json names files = .ok (questions, counts)) :
    ∃ itemsOf : PyStr → List QuestionRecord, (∀ name ∈ names, itemsOf name ≠ []) ∧
      counts = names.map fun name => (name, (itemsOf name).length) := by
  unfold loadQuestionRecords at h
  obtain ⟨loaded, _, h⟩ := bind_eq_ok.mp h
  unfold questionsByDataset at h
  obtain ⟨hmissing, h⟩ := raiseIf_bind_eq_ok.mp h
  obtain ⟨_, hcounts⟩ := Prod.mk.inj (Except.ok.inj h)
  refine ⟨_, fun name hname hempty => ?_, hcounts.symm⟩
  rw [not_not] at hmissing
  exact List.filter_eq_nil_iff.mp hmissing name hname (decide_eq_true hempty)

/-- What the second level makes of files that each hold every name. -/
theorem loadQuestionRecords_of_contains (h : ValidDatasetNames names)
    (hwell : ∀ file ∈ files, loadQuestionAnswerRecords json file none = .ok (records file))
    (hcovers : CoversNames names files records)
    (hcontains : ∀ file ∈ files, ∀ name ∈ names, HoldsDataset (records file) name) :
    loadQuestionRecords json names files =
      .ok (unionQuestions names (files.flatMap records)) := by
  unfold loadQuestionRecords
  rw [(mapM_loadQuestionAnswerRecords h hwell).mpr ⟨hcontains, rfl⟩, ok_bind]
  apply questionsByDataset_of_ne_nil
  · intro name hname
    rw [getD_groupBy_records, getD_ofPairs_nil, List.nil_append, recordsOf_flatten,
      List.flatMap, recordsOf_flatten, List.map_map, List.map_map]
    apply congrArg List.flatten
    apply List.map_congr_left
    intro file _
    exact recordsOf_flatMap_recordsOf h.nodup hname (records file)
  · intro name hname
    obtain ⟨file, hfile, record, hrecord, hsource⟩ := hcovers name hname
    exact recordsOf_ne_nil.mpr ⟨record, List.mem_flatMap.mpr ⟨file, hfile, hrecord⟩, hsource⟩

/-- **Several files.**  Well-formed files that together hold every requested data set load as
    their union if and only if every single file holds every requested data set. -/
theorem loadQuestionRecords_union_iff (h : ValidDatasetNames names)
    (hwell : ∀ file ∈ files, loadQuestionAnswerRecords json file none = .ok (records file))
    (hcovers : CoversNames names files records) :
    loadQuestionRecords json names files =
        .ok (unionQuestions names (files.flatMap records)) ↔
      ∀ file ∈ files, ∀ name ∈ names, HoldsDataset (records file) name := by
  constructor
  · intro hload
    unfold loadQuestionRecords at hload
    obtain ⟨loaded, hloaded, _⟩ := bind_eq_ok.mp hload
    exact ((mapM_loadQuestionAnswerRecords h hwell).mp hloaded).1
  · exact loadQuestionRecords_of_contains h hwell hcovers

end Union

/-- A file of one question of a data set. -/
def oneQuestionFile (path dataset : String) : QuestionFile where
  path := path
  stem := path.toList
  payload := .array [.object [("question".toList, .str "1+1".toList),
    ("answer".toList, .str "2".toList), ("type".toList, .str dataset.toList)]]

/-- No text is asked of other values here. -/
def stringsOnly : JsonText where
  str := fun _ => []
  int := fun _ => .ok 0
  reprNames := fun _ => ""

def oneRecord (dataset : String) : QuestionRecord :=
  ⟨"1+1".toList, "2".toList, dataset.toList, [], dataset.toList⟩

theorem load_gsm8k (path : String) :
    loadQuestionAnswerRecords stringsOnly (oneQuestionFile path "gsm8k") none =
      .ok [oneRecord "gsm8k"] := rfl

theorem load_aime (path : String) :
    loadQuestionAnswerRecords stringsOnly (oneQuestionFile path "aime") none =
      .ok [oneRecord "aime"] := rfl

/-- Two files with a question each of the one requested data set. -/
theorem loadQuestionRecords_union_iff_two_files :
    loadQuestionRecords stringsOnly ["gsm8k".toList]
        [oneQuestionFile "a.json" "gsm8k", oneQuestionFile "b.json" "gsm8k"] =
      .ok (unionQuestions ["gsm8k".toList] [oneRecord "gsm8k", oneRecord "gsm8k"]) := by
  have hwell : ∀ file ∈ [oneQuestionFile "a.json" "gsm8k", oneQuestionFile "b.json" "gsm8k"],
      loadQuestionAnswerRecords stringsOnly file none = .ok [oneRecord "gsm8k"] := by
    simp only [List.forall_mem_cons, List.not_mem_nil, false_implies, implies_true, and_true]
    exact ⟨load_gsm8k "a.json", load_gsm8k "b.json"⟩
  have hcontains : HoldsDataset [oneRecord "gsm8k"] "gsm8k".toList :=
    ⟨_, List.mem_cons_self, rfl⟩
  have hnames : ValidDatasetNames ["gsm8k".toList] :=
    ⟨by decide, by decide, by decide, by decide⟩
  have hcovers : CoversNames ["gsm8k".toList]
      [oneQuestionFile "a.json" "gsm8k", oneQuestionFile "b.json" "gsm8k"]
      fun _ => [oneRecord "gsm8k"] := by
    simpa [CoversNames] using hcontains
  refine (loadQuestionRecords_union_iff hnames hwell hcovers).mpr ?_
  · simpa using hcontains

/-- Two data sets in a file each: the first file is refused for lacking the second one. -/
theorem not_loadQuestionRecords_split_files :
    CoversNames ["gsm8k".toList, "aime".toList]
        [oneQuestionFile "a.json" "gsm8k", oneQuestionFile "b.json" "aime"]
        (fun file => [oneRecord (if file.path = "a.json" then "gsm8k" else "aime")]) ∧
      ¬ Returns (loadQuestionRecords stringsOnly ["gsm8k".toList, "aime".toList]
        [oneQuestionFile "a.json" "gsm8k", oneQuestionFile "b.json" "aime"]) := by
  have hnames : ValidDatasetNames ["gsm8k".toList, "aime".toList] :=
    ⟨by decide, by decide, by decide, by decide⟩
  have hwell : ∀ file ∈ [oneQuestionFile "a.json" "gsm8k", oneQuestionFile "b.json" "aime"],
      loadQuestionAnswerRecords stringsOnly file none =
        .ok [oneRecord (if file.path = "a.json" then "gsm8k" else "aime")] := by
    simp only [List.forall_mem_cons, List.not_mem_nil, false_implies, implies_true, and_true]
    exact ⟨load_gsm8k "a.json", load_aime "b.json"⟩
  constructor
  · unfold CoversNames HoldsDataset
    decide
  · rintro ⟨result, hresult⟩
    unfold loadQuestionRecords at hresult
    obtain ⟨loaded, hloaded, _⟩ := bind_eq_ok.mp hresult
    obtain ⟨hall, _⟩ := (mapM_loadQuestionAnswerRecords hnames hwell).mp hloaded
    obtain ⟨record, hrecord, hsource⟩ := hall _ List.mem_cons_self "aime".toList (by decide)
    obtain rfl := List.mem_singleton.mp hrecord
    exact absurd hsource (by decide)

end R2opl
