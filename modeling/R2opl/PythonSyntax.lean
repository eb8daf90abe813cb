import Mathlib.Data.Rat.Defs
import R2opl.Python

/-!
# Python's arithmetic expressions

The trees of `ast.parse`, as far as a walk over constants tells them apart, and what is promised
of any parser that builds them.  `parse` is the part of it for numbers, names, the unary and
binary operators, parentheses and calls with one argument; a text with anything else in it is
`none` for it, like a text that is no expression.
-/

namespace R2opl

namespace Ast

inductive UnaryOperator where
  | uAdd
  | uSub
deriving DecidableEq, Repr

inductive Operator where
  | add
  | sub
  | mult
  | div
  | pow
  | floorDiv
  | mod
  | matMult
  | lShift
  | rShift
  | bitOr
  | bitXor
  | bitAnd
deriving DecidableEq, Repr

inductive Node where
  | int (value : Nat)
  /-- A float literal, by the number it writes. -/
  | float (value : ℚ)
  | name (id : PyStr)
  | unaryOp (op : UnaryOperator) (operand : Node)
  | binOp (left : Node) (op : Operator) (right : Node)
  /-- With one argument, that is no keyword. -/
  | call (func argument : Node)
  /-- Any other expression, by the number of nodes below its own. -/
  | other (below : Nat)
deriving DecidableEq, Repr

/-- The nodes that `ast.walk` meets; a name brings its context along, and an operation its
    operator. -/
def Node.size : Node → Nat
  | .int _ => 1
  | .float _ => 1
  | .name _ => 2
  | .unaryOp _ operand => 2 + operand.size
  | .binOp left _ right => 2 + left.size + right.size
  | .call func argument => 1 + func.size + argument.size
  | .other below => 1 + below

/-! ### Tokens -/

inductive Token where
  | int (value : Nat)
  | float (value : ℚ)
  | name (id : PyStr)
  | op (op : Operator)
  | tilde
  | leftParen
  | rightParen
  | comma
deriving DecidableEq, Repr

/-- The small letter that a compatibility character stands for in a name, for the letters
    of `pi` and `sqrt`. -/
def nfkcLetter (c : Char) : Char :=
  let code := c.toNat
  let letter (index : Nat) : Char := Char.ofNat ('a'.toNat + index)
  if 65345 ≤ code && code ≤ 65370 then letter (code - 65345)
  else if 119834 ≤ code && code < 120484 && (code - 119834) % 52 < 26 then
    letter ((code - 119834) % 52)
  else if [7522, 8305, 8505, 8520, 8560].contains code then 'i'
  else if [7510, 8346].contains code then 'p'
  else if code = 67493 then 'q'
  else if [691, 7523].contains code then 'r'
  else if [383, 738, 8347].contains code then 's'
  else if [7511, 8348].contains code then 't'
  else c

def isNameStart (c : Char) : Bool := c.isAlpha || c = '_' || 128 ≤ c.toNat

def isNameChar (c : Char) : Bool := isNameStart c || c.isDigit

/-- The digits up to the first character that is none, and the rest.  One underscore may
    stand before a digit. -/
def digitTail (isDigit : Char → Bool) : PyStr → Option (PyStr × PyStr)
  | [] => some ([], [])
  | '_' :: d :: rest =>
      if isDigit d then (digitTail isDigit rest).map fun (digits, rest) => (d :: digits, rest)
      else none
  | c :: rest =>
      if isDigit c then (digitTail isDigit rest).map fun (digits, rest) => (c :: digits, rest)
      else if c = '_' then none
      else some ([], c :: rest)

/-- A digit in a radix up to sixteen. -/
def radixDigit (radix : Nat) (c : Char) : Bool :=
  (c.isDigit && c.toNat - '0'.toNat < radix) ||
    (radix = 16 && 'a'.toNat ≤ c.toLower.toNat && c.toLower.toNat ≤ 'f'.toNat)

def radixDigitValue (c : Char) : Nat :=
  if c.isDigit then c.toNat - '0'.toNat else c.toLower.toNat - 'a'.toNat + 10

def radixValue (radix : Nat) (digits : PyStr) : Nat :=
  digits.foldl (fun n c => radix * n + radixDigitValue c) 0

/-- The exponent after `e`, and the rest. -/
def scanExponent : PyStr → Option (Int × PyStr)
  | '+' :: d :: rest => positive d rest
  | '-' :: d :: rest => (positive d rest).map fun (exponent, rest) => (-exponent, rest)
  | d :: rest => positive d rest
  | [] => none
where
  positive (d : Char) (rest : PyStr) : Option (Int × PyStr) :=
    if d.isDigit then
      (digitTail Char.isDigit (d :: rest)).map fun (digits, rest) => (radixValue 10 digits, rest)
    else none

/-- The float literal with the digits `whole` before the point and `fraction` after it. -/
def floatValue (whole fraction : PyStr) (exponent : Int) : ℚ :=
  radixValue 10 (whole ++ fraction) * (10 : ℚ) ^ (exponent - fraction.length)

/-- The rest of a float literal after its point. -/
def scanFraction (whole : PyStr) (rest : PyStr) : Option (Token × PyStr) := do
  let (fraction, rest) ←
    if rest.head?.any Char.isDigit then digitTail Char.isDigit rest else some ([], rest)
  match rest with
  | 'e' :: rest | 'E' :: rest =>
      let (exponent, rest) ← scanExponent rest
      some (.float (floatValue whole fraction exponent), rest)
  | rest => some (.float (floatValue whole fraction 0), rest)

/-- The number at the start of a text that begins with a digit, or with a point and a
    digit. -/
def scanNumber : PyStr → Option (Token × PyStr)
  | '.' :: rest => scanFraction [] rest
  | '0' :: 'x' :: rest | '0' :: 'X' :: rest => radixLiteral 16 rest
  | '0' :: 'o' :: rest | '0' :: 'O' :: rest => radixLiteral 8 rest
  | '0' :: 'b' :: rest | '0' :: 'B' :: rest => radixLiteral 2 rest
  | text => do
      let (whole, rest) ← digitTail Char.isDigit text
      match rest with
      | '.' :: rest => scanFraction whole rest
      | 'e' :: rest | 'E' :: rest =>
          let (exponent, rest) ← scanExponent rest
          some (.float (floatValue whole [] exponent), rest)
      | rest =>
          -- an integer other than zero has no zero in front
          if whole.head? = some '0' && whole.any (· ≠ '0') then none
          else some (.int (radixValue 10 whole), rest)
where
  radixLiteral (radix : Nat) (rest : PyStr) : Option (Token × PyStr) := do
    let (digits, rest) ← digitTail (radixDigit radix) rest
    if digits = [] then none else some (.int (radixValue radix digits), rest)

/-- The tokens of a text, up to a comment; `fuel` bounds their number. -/
def scanFrom : Nat → PyStr → Option (List Token)
  | _, [] => some []
  | 0, _ :: _ => none
  | fuel + 1, c :: rest =>
      if c.isDigit || (c = '.' && rest.head?.any Char.isDigit) then do
        let (token, rest) ← scanNumber (c :: rest)
        if rest.head?.any isNameChar then none
        else return token :: (← scanFrom fuel rest)
      else if isNameStart c then do
        let name := (c :: rest).takeWhile isNameChar
        return .name (name.map nfkcLetter) ::
          (← scanFrom fuel ((c :: rest).dropWhile isNameChar))
      else
        match c, rest with
        | '*', '*' :: rest => (scanFrom fuel rest).map (.op .pow :: ·)
        | '*', rest => (scanFrom fuel rest).map (.op .mult :: ·)
        | '/', '/' :: rest => (scanFrom fuel rest).map (.op .floorDiv :: ·)
        | '/', rest => (scanFrom fuel rest).map (.op .div :: ·)
        | '<', '<' :: rest => (scanFrom fuel rest).map (.op .lShift :: ·)
        | '>', '>' :: rest => (scanFrom fuel rest).map (.op .rShift :: ·)
        | '+', rest => (scanFrom fuel rest).map (.op .add :: ·)
        | '-', rest => (scanFrom fuel rest).map (.op .sub :: ·)
        | '%', rest => (scanFrom fuel rest).map (.op .mod :: ·)
        | '@', rest => (scanFrom fuel rest).map (.op .matMult :: ·)
        | '|', rest => (scanFrom fuel rest).map (.op .bitOr :: ·)
        | '^', rest => (scanFrom fuel rest).map (.op .bitXor :: ·)
        | '&', rest => (scanFrom fuel rest).map (.op .bitAnd :: ·)
        | '~', rest => (scanFrom fuel rest).map (.tilde :: ·)
        | '(', rest => (scanFrom fuel rest).map (.leftParen :: ·)
        | ')', rest => (scanFrom fuel rest).map (.rightParen :: ·)
        | ',', rest => (scanFrom fuel rest).map (.comma :: ·)
        | '#', _ => some []
        | _, _ => none

/-- The most parentheses that the tokenizer keeps open at once. -/
def maxLevel : Nat := 200

/-- At most `limit` parentheses are open at once, `level` of them before the tokens. -/
def nestsWithin (limit : Nat) : Nat → List Token → Bool
  | _, [] => true
  | level, .leftParen :: tokens => level < limit && nestsWithin limit (level + 1) tokens
  | level, .rightParen :: tokens => nestsWithin limit (level - 1) tokens
  | level, _ :: tokens => nestsWithin limit level tokens

def scan (text : PyStr) : Option (List Token) :=
  if text.contains (Char.ofNat 0) then none else scanFrom text.length text

/-! ### The grammar -/

/-- The binary operators from the loosest to the tightest, powers apart. -/
def levels : List (List Operator) :=
  [[.bitOr], [.bitXor], [.bitAnd], [.lShift, .rShift], [.add, .sub],
    [.mult, .div, .floorDiv, .mod, .matMult]]

mutual

/-- `sum: sum '+' term | sum '-' term | term`, and likewise for every level. -/
def binary : Nat → List (List Operator) → List Token → Option (Node × List Token)
  | 0, _, _ => none
  | fuel + 1, [], tokens => factor fuel tokens
  | fuel + 1, operators :: tighter, tokens => do
      let (left, rest) ← binary fuel tighter tokens
      binaryRest fuel operators tighter left rest

def binaryRest : Nat → List Operator → List (List Operator) → Node → List Token →
    Option (Node × List Token)
  | 0, _, _, _, _ => none
  | fuel + 1, operators, tighter, left, .op op :: tokens =>
      if op ∈ operators then do
        let (right, rest) ← binary fuel tighter tokens
        binaryRest fuel operators tighter (.binOp left op right) rest
      else some (left, .op op :: tokens)
  | _ + 1, _, _, left, tokens => some (left, tokens)

/-- `factor: '+' factor | '-' factor | '~' factor | power` -/
def factor : Nat → List Token → Option (Node × List Token)
  | 0, _ => none
  | fuel + 1, .op .add :: tokens => do
      let (operand, rest) ← factor fuel tokens
      some (.unaryOp .uAdd operand, rest)
  | fuel + 1, .op .sub :: tokens => do
      let (operand, rest) ← factor fuel tokens
      some (.unaryOp .uSub operand, rest)
  | fuel + 1, .tilde :: tokens => do
      let (operand, rest) ← factor fuel tokens
      some (.other (1 + operand.size), rest)
  | fuel + 1, tokens => power fuel tokens

/-- `power: primary '**' factor | primary` -/
def power : Nat → List Token → Option (Node × List Token)
  | 0, _ => none
  | fuel + 1, tokens => do
      let (base, rest) ← primary fuel tokens
      match rest with
      | .op .pow :: rest =>
          let (exponent, rest) ← factor fuel rest
          some (.binOp base .pow exponent, rest)
      | rest => some (base, rest)

/-- `primary: primary '(' arguments ')' | atom` -/
def primary : Nat → List Token → Option (Node × List Token)
  | 0, _ => none
  | fuel + 1, tokens => do
      let (func, rest) ← atom fuel tokens
      primaryRest fuel func rest

def primaryRest : Nat → Node → List Token → Option (Node × List Token)
  | 0, _, _ => none
  | fuel + 1, func, .leftParen :: tokens => do
      let (argument, rest) ← binary fuel levels tokens
      match rest with
      | .rightParen :: rest => primaryRest fuel (.call func argument) rest
      | .comma :: .rightParen :: rest => primaryRest fuel (.call func argument) rest
      | _ => none
  | _ + 1, func, tokens => some (func, tokens)

/-- `atom: NAME | NUMBER | '(' expression ')'` -/
def atom : Nat → List Token → Option (Node × List Token)
  | 0, _ => none
  | _ + 1, .int value :: tokens => some (.int value, tokens)
  | _ + 1, .float value :: tokens => some (.float value, tokens)
  | _ + 1, .name id :: tokens => some (.name id, tokens)
  | fuel + 1, .leftParen :: tokens => do
      let (inner, rest) ← binary fuel levels tokens
      match rest with
      | .rightParen :: rest => some (inner, rest)
      | _ => none
  | _ + 1, _ => none

end

/-- The tree of the tokens, all of them read. -/
def parseTokens (tokens : List Token) : Option Node :=
  match binary (16 * tokens.length + 16) levels tokens with
  | some (tree, []) => some tree
  | _ => none

/-- `ast.parse(text, mode="eval").body` -/
def parse (text : PyStr) : Option Node := do
  let tokens ← scan text
  if nestsWithin maxLevel 0 tokens then parseTokens tokens else none

/-! ### What a tree is read from -/

/-- The numbers, names, operators and call brackets of a tree, in their order.  Those below
    another expression are left out. -/
def Node.tokens : Node → List Token
  | .int value => [.int value]
  | .float value => [.float value]
  | .name id => [.name id]
  | .unaryOp .uAdd operand => .op .add :: operand.tokens
  | .unaryOp .uSub operand => .op .sub :: operand.tokens
  | .binOp left op right => left.tokens ++ .op op :: right.tokens
  | .call func argument => func.tokens ++ .leftParen :: argument.tokens
  | .other _ => []

/-- A token that denotes no number. -/
def Token.isMark : Token → Bool
  | .int _ => false
  | .float _ => false
  | _ => true

/-- The tokens stand in the text, in their order and apart: a number where the tokenizer reads
    it, any other with a character of its own. -/
inductive Written : List Token → PyStr → Prop
  | nil (text : PyStr) : Written [] text
  | skip {tokens : List Token} {text : PyStr} (c : Char) (h : Written tokens text) :
      Written tokens (c :: text)
  | number {c : Char} {tokens : List Token} {text rest : PyStr} {token : Token}
      (hstart : c.isDigit = true ∨ c = '.') (hscan : scanNumber (c :: text) = some (token, rest))
      (h : Written tokens rest) : Written (token :: tokens) (c :: text)
  | mark {tokens : List Token} {text : PyStr} {token : Token} (c : Char)
      (hmark : token.isMark = true) (h : Written tokens text) :
      Written (token :: tokens) (c :: text)

/-- What the documentation of `ast` says of a parser: its trees are read from the tokens of
    their text. -/
def ReadsText (parse : PyStr → Option Node) : Prop :=
  ∀ text tree, parse text = some tree →
    ∃ tokens, Written tokens text ∧ tree.tokens.Sublist tokens

theorem Written.suffix {tokens : List Token} {text rest : PyStr} (h : Written tokens rest)
    (hsuffix : rest <:+ text) : Written tokens text := by
  obtain ⟨before, rfl⟩ := hsuffix
  induction before with
  | nil => exact h
  | cons c before ih => exact ih.skip c

theorem scanFrom_written {fuel : Nat} {text : PyStr} {tokens : List Token}
    (h : scanFrom fuel text = some tokens) : Written tokens text := by
  induction fuel generalizing text tokens with
  | zero =>
    cases text with
    | nil =>
      cases h
      exact .nil _
    | cons c text => cases h
  | succ fuel ih =>
    cases text with
    | nil =>
      cases h
      exact .nil _
    | cons c text =>
      -- an operator or a bracket, with the tokens after it
      have hmark {token : Token} {rest : PyStr} (hsuffix : rest <:+ text)
          (h : (scanFrom fuel rest).map (token :: ·) = some tokens)
          (htoken : token.isMark = true) : Written tokens (c :: text) := by
        obtain ⟨last, hlast, rfl⟩ := Option.map_eq_some_iff.mp h
        exact .mark c htoken ((ih hlast).suffix hsuffix)
      unfold scanFrom at h
      split at h
      · next hstart =>
        obtain ⟨⟨token, rest⟩, hnumber, h⟩ := Option.bind_eq_some_iff.mp h
        dsimp only at h
        split at h
        · cases h
        · obtain ⟨last, hlast, hpair⟩ := Option.bind_eq_some_iff.mp h
          cases hpair
          refine .number ?_ hnumber (ih hlast)
          rcases Bool.or_eq_true_iff.mp hstart with hdigit | hpoint
          · exact Or.inl hdigit
          · exact Or.inr (of_decide_eq_true (Bool.and_eq_true_iff.mp hpoint).1)
      · split at h
        · next hname =>
          obtain ⟨last, hlast, hpair⟩ := Option.bind_eq_some_iff.mp h
          cases hpair
          have hchar : isNameChar c = true := by
            unfold isNameChar
            rw [hname, Bool.true_or]
          rw [List.dropWhile_cons_of_pos hchar] at hlast
          exact .mark c rfl ((ih hlast).suffix (List.dropWhile_suffix _))
        · split at h
          case h_18 =>
            cases h
            exact .nil _
          case h_19 => cases h
          all_goals first
            | exact hmark (List.suffix_cons _ _) h rfl
            | exact hmark (List.suffix_refl _) h rfl

/-- The tree is read off the front of the tokens. -/
def Reads (tokens : List Token) (node : Node) (rest : List Token) : Prop :=
  ∃ read, read ++ rest = tokens ∧ node.tokens.Sublist read

/-- A tree that starts with the one read before. -/
def ReadsOn (left : Node) (tokens : List Token) (node : Node) (rest : List Token) : Prop :=
  ∀ before, left.tokens.Sublist before → Reads (before ++ tokens) node rest

theorem ReadsOn.refl (node : Node) (tokens : List Token) : ReadsOn node tokens node tokens :=
  fun before h => ⟨before, rfl, h⟩

theorem Reads.trans {tokens middle rest : List Token} {left node : Node}
    (h : Reads tokens left middle) (hon : ReadsOn left middle node rest) :
    Reads tokens node rest := by
  obtain ⟨read, rfl, hread⟩ := h
  exact hon read hread

/-- A longer tree is read with the tokens after the first one. -/
theorem ReadsOn.extend {left longer node : Node} (more : List Token) {middle rest : List Token}
    (hlonger : ∀ before, left.tokens.Sublist before → longer.tokens.Sublist (before ++ more))
    (hon : ReadsOn longer middle node rest) : ReadsOn left (more ++ middle) node rest := by
  intro before hbefore
  rw [← List.append_assoc]
  exact hon _ (hlonger before hbefore)

/-- One step of a left-associative level. -/
theorem ReadsOn.binOp {left right node : Node} {op : Operator} {tokens middle rest : List Token}
    (hright : Reads tokens right middle) (hon : ReadsOn (.binOp left op right) middle node rest) :
    ReadsOn left (.op op :: tokens) node rest := by
  obtain ⟨read, rfl, hread⟩ := hright
  refine hon.extend (.op op :: read) fun before hbefore => ?_
  rw [Node.tokens]
  exact hbefore.append (hread.cons_cons _)

/-- A call reads its brackets and its argument after the function. -/
theorem ReadsOn.call {func argument node : Node} {tokens middle rest : List Token}
    (close : List Token) (hargument : Reads tokens argument (close ++ middle))
    (hon : ReadsOn (.call func argument) middle node rest) :
    ReadsOn func (.leftParen :: tokens) node rest := by
  obtain ⟨read, rfl, hread⟩ := hargument
  rw [← List.append_assoc, ← List.cons_append]
  refine hon.extend (.leftParen :: (read ++ close)) fun before hbefore => ?_
  rw [Node.tokens]
  exact hbefore.append ((hread.trans (List.sublist_append_left read close)).cons_cons _)

/-- A sign before its operand. -/
theorem Reads.unary {token : Token} {operand node : Node} {tokens rest : List Token}
    (hnode : node.tokens.Sublist (token :: operand.tokens)) (h : Reads tokens operand rest) :
    Reads (token :: tokens) node rest := by
  obtain ⟨read, rfl, hread⟩ := h
  exact ⟨token :: read, rfl, hnode.trans (hread.cons_cons _)⟩

/-- What every rule of the grammar reads. -/
structure GrammarReads (fuel : Nat) : Prop where
  binary : ∀ {levels tokens node rest}, binary fuel levels tokens = some (node, rest) →
    Reads tokens node rest
  binaryRest : ∀ {operators tighter left tokens node rest},
    binaryRest fuel operators tighter left tokens = some (node, rest) →
      ReadsOn left tokens node rest
  factor : ∀ {tokens node rest}, factor fuel tokens = some (node, rest) → Reads tokens node rest
  power : ∀ {tokens node rest}, power fuel tokens = some (node, rest) → Reads tokens node rest
  primary : ∀ {tokens node rest}, primary fuel tokens = some (node, rest) →
    Reads tokens node rest
  primaryRest : ∀ {func tokens node rest}, primaryRest fuel func tokens = some (node, rest) →
    ReadsOn func tokens node rest
  atom : ∀ {tokens node rest}, atom fuel tokens = some (node, rest) → Reads tokens node rest

theorem grammarReads (fuel : Nat) : GrammarReads fuel := by
  induction fuel with
  | zero => constructor <;> intros <;> contradiction
  | succ fuel ih =>
    constructor
    case binary =>
      intro levels tokens node rest h
      cases levels with
      | nil => exact ih.factor h
      | cons operators tighter =>
        obtain ⟨⟨left, middle⟩, hleft, h⟩ := Option.bind_eq_some_iff.mp h
        exact (ih.binary hleft).trans (ih.binaryRest h)
    case binaryRest =>
      intro operators tighter left tokens node rest h
      unfold Ast.binaryRest at h
      split at h
      · cases h
      · next hfuel =>
        obtain rfl := Nat.succ.inj hfuel
        split at h
        · obtain ⟨⟨right, middle⟩, hright, h⟩ := Option.bind_eq_some_iff.mp h
          exact .binOp (ih.binary hright) (ih.binaryRest h)
        · cases h
          exact .refl _ _
      · cases h
        exact .refl _ _
    case factor =>
      intro tokens node rest h
      unfold Ast.factor at h
      split at h
      · cases h
      · next hfuel =>
        obtain rfl := Nat.succ.inj hfuel
        obtain ⟨⟨operand, middle⟩, hoperand, h⟩ := Option.bind_eq_some_iff.mp h
        cases h
        exact .unary (List.Sublist.refl _) (ih.factor hoperand)
      · next hfuel =>
        obtain rfl := Nat.succ.inj hfuel
        obtain ⟨⟨operand, middle⟩, hoperand, h⟩ := Option.bind_eq_some_iff.mp h
        cases h
        exact .unary (List.Sublist.refl _) (ih.factor hoperand)
      · next hfuel =>
        obtain rfl := Nat.succ.inj hfuel
        obtain ⟨⟨operand, middle⟩, hoperand, h⟩ := Option.bind_eq_some_iff.mp h
        cases h
        exact .unary (List.nil_sublist _) (ih.factor hoperand)
      · next hfuel _ _ _ =>
        obtain rfl := Nat.succ.inj hfuel
        exact ih.power h
    case power =>
      intro tokens node rest h
      obtain ⟨⟨base, middle⟩, hbase, h⟩ := Option.bind_eq_some_iff.mp h
      have hprimary := ih.primary hbase
      dsimp only at h
      split at h
      · obtain ⟨⟨exponent, last⟩, hexponent, h⟩ := Option.bind_eq_some_iff.mp h
        cases h
        exact hprimary.trans (.binOp (ih.factor hexponent) (.refl _ _))
      · cases h
        exact hprimary
    case primary =>
      intro tokens node rest h
      obtain ⟨⟨func, middle⟩, hfunc, h⟩ := Option.bind_eq_some_iff.mp h
      exact (ih.atom hfunc).trans (ih.primaryRest h)
    case primaryRest =>
      intro func tokens node rest h
      unfold Ast.primaryRest at h
      split at h
      · cases h
      · next hfuel =>
        obtain rfl := Nat.succ.inj hfuel
        obtain ⟨⟨argument, middle⟩, hargument, h⟩ := Option.bind_eq_some_iff.mp h
        have hread := ih.binary hargument
        dsimp only at h
        split at h
        · exact .call [.rightParen] hread (ih.primaryRest h)
        · exact .call [.comma, .rightParen] hread (ih.primaryRest h)
        · cases h
      · cases h
        exact .refl _ _
    case atom =>
      intro tokens node rest h
      unfold Ast.atom at h
      split at h
      · cases h
      · cases h
        exact ⟨[_], rfl, List.Sublist.refl _⟩
      · cases h
        exact ⟨[_], rfl, List.Sublist.refl _⟩
      · cases h
        exact ⟨[_], rfl, List.Sublist.refl _⟩
      · next hfuel =>
        obtain rfl := Nat.succ.inj hfuel
        obtain ⟨⟨inner, middle⟩, hinner, h⟩ := Option.bind_eq_some_iff.mp h
        obtain ⟨read, hreads, hread⟩ := ih.binary hinner
        dsimp only at h
        split at h
        · cases h
          refine ⟨.leftParen :: (read ++ [.rightParen]), ?_, ?_⟩
          · rw [List.cons_append, List.append_assoc]
            exact congrArg _ hreads
          · exact (hread.trans (List.sublist_append_left _ _)).cons _
        · cases h
      · cases h

theorem parse_readsText : ReadsText parse := by
  intro text tree h
  obtain ⟨tokens, hscan, h⟩ := Option.bind_eq_some_iff.mp h
  refine ⟨tokens, ?_, ?_⟩
  · unfold scan at hscan
    split at hscan
    · cases hscan
    · exact scanFrom_written hscan
  · split at h
    · unfold parseTokens at h
      split at h
      · next hread =>
        cases h
        obtain ⟨read, hread, htokens⟩ := (grammarReads _).binary hread
        rw [List.append_nil] at hread
        rwa [← hread]
      · cases h
    · cases h

/-- An operator that the evaluator refuses still has its operands in the tree. -/
example : parse "9**(99)%7-~pi".toList =
    some (.binOp (.binOp (.binOp (.int 9) .pow (.int 99)) .mod (.int 7)) .sub (.other 3)) := by
  decide +kernel

end Ast

end R2opl
