import Mathlib.Data.List.Basic
import QueryDesk.Sql.Token

/-!
# How the server reads a text

The database has lexical rules of its own, and reads a statement by them whatever was read in it
before. Here they are, character by character: quoted texts and names with their marks doubled or
escaped, comments to the end of the line and between slashes and stars, texts between dollar tags.
`after` is where the server stands behind a text, `marks` are the parameter marks that it meets on
the way, and `doubtful` tells of a text that there is a place in it where the tokens of the dialect
may be cut in another way than the server cuts them. Behind a closed text a separator leads the
server back to the start, whatever the text was.
-/

namespace QueryDesk.Sql.Server

/-! ### Modes -/

structure Quoting where
  mark : Char
  /-- A backslash takes the next character into the text. -/
  escapes : Bool
  /-- The text holds the digits of a bit or hexadecimal literal. -/
  digits : Bool
deriving DecidableEq

inductive Mode where
  /-- In code. `behind` is what was read since the last separator, last character first. -/
  | outside (behind : List Char)
  | inside (q : Quoting)
  /-- Behind a backslash that escapes. -/
  | escaped (q : Quoting)
  /-- Behind a mark that closes, unless it is doubled. -/
  | shut (q : Quoting)
  | line
  | block (depth : Nat) (before : Option Char)
  /-- Between dollar tags. `seen` is what was read there, last character first. -/
  | dollar (tag seen : List Char)
deriving DecidableEq

def Mode.start : Mode := .outside []

/-! ### Characters -/

def isMark (d : Dialect) (c : Char) : Bool :=
  c == '\'' || c == '"' || (d == .mysql && c == '`')

/-- May stand in an operator. -/
def isSign (c : Char) : Bool := insideOperator .postgres c

/-- No word or operator reaches past such a character. -/
def separates (c : Char) : Bool :=
  c == ',' || c == '(' || c == ')' || c == ' ' || (9 ≤ c.toNat && c.toNat ≤ 13)

/-- Makes two dashes a comment in MySQL. -/
def isControl (c : Char) : Bool := c.toNat ≤ 32 || c.toNat == 127

def wordBehind (d : Dialect) (behind : List Char) : List Char :=
  (behind.takeWhile (insideName d)).reverse

/-- The quotes that a mark opens behind a word. -/
def quoting (d : Dialect) (word : List Char) (mark : Char) : Quoting :=
  let digits := word == ['b'] || word == ['B'] || word == ['x'] || word == ['X']
  { mark, digits
    escapes := match d with
      | .mysql => mark != '`' && !digits
      | .postgres => mark == '\'' && (word == ['e'] || word == ['E']) }

/-! ### Reading -/

/-- What was read since the last separator, with one more character. -/
def push (behind : List Char) (c : Char) : List Char := if separates c then [] else c :: behind

/-- The tag that a dollar sign ends behind a word. -/
def openedTag : List Char → Option (List Char)
  | '$' :: tag => if tag.head?.any Char.isDigit then none else some tag
  | _ => none

def nextOutside (d : Dialect) (behind : List Char) (c : Char) : Mode :=
  let pushed := Mode.outside (push behind c)
  if isMark d c then .inside (quoting d (wordBehind d behind) c)
  else if c == '*' && behind.head? == some '/' then .block 0 none
  else match d with
    | .mysql =>
      if c == '#' then .line
      else if isControl c && behind.take 2 == ['-', '-'] then
        if c == '\n' then .start else .line
      else pushed
    | .postgres =>
      if c == '-' && behind.head? == some '-' then .line
      else if c == '$' then
        match openedTag (wordBehind d behind) with
        | some tag => .dollar tag []
        | none => pushed
      else pushed

def next (d : Dialect) : Mode → Char → Mode
  | .outside behind, c => nextOutside d behind c
  | .inside q, c =>
    if c = q.mark then .shut q else if c = '\\' ∧ q.escapes then .escaped q else .inside q
  | .escaped q, _ => .inside q
  | .shut q, c => if c = q.mark then .inside q else nextOutside d [] c
  | .line, c => if c = '\n' || (c == '\r' && d == .postgres) then .start else .line
  | .block depth before, c =>
    if before = some '*' ∧ c = '/' then
      if depth = 0 then .start else .block (depth - 1) none
    else if before = some '/' ∧ c = '*' ∧ d = .postgres then .block (depth + 1) none
    else .block depth (some c)
  | .dollar tag seen, c =>
    if ('$' :: (tag.reverse ++ ['$'])).isPrefixOf (c :: seen) then .start
    else .dollar tag (c :: seen)

def after (d : Dialect) (m : Mode) (text : List Char) : Mode := text.foldl (next d) m

/-! ### Parameter marks -/

/-- What a digit adds to the parameter marks behind a word. -/
def paramDigit (c : Char) : List Char → List Char
  | ['$'] => ['$', c]
  | '$' :: digits => if digits.all Char.isDigit then [c] else []
  | _ => []

/-- What a character of code adds to the parameter marks. -/
def markOutside (d : Dialect) (behind : List Char) (c : Char) : List Char :=
  match d with
  | .mysql => if c == '?' then [c] else []
  | .postgres => if c.isDigit then paramDigit c (wordBehind d behind) else []

def mark (d : Dialect) : Mode → Char → List Char
  | .outside behind, c => markOutside d behind c
  | .shut q, c => if c = q.mark then [] else markOutside d [] c
  | _, _ => []

/-- The parameter marks in a text, one behind the other. -/
def marks (d : Dialect) : Mode → List Char → List Char
  | _, [] => []
  | m, c :: r => mark d m c ++ marks d (next d m c) r

/-! ### Places of doubt -/

/-- The word that ends here began with a digit or directly behind a point, so that its first
characters may belong to a number. -/
def numeric (d : Dialect) (behind : List Char) : Bool :=
  match wordBehind d behind with
  | [] => false
  | c :: _ => c.isDigit || (c != '$' && (behind.dropWhile (insideName d)).head? == some '.')

/-- Whether the cut into tokens may differ at a character of code: at a mark directly behind a
number, at a comment that opens inside an operator, at a blank that is no blank for the server, at
the name of a MySQL variable that is none, and at a dollar sign in a number. -/
def doubtOutside (d : Dialect) (behind : List Char) (c : Char) : Bool :=
  (isMark d c && numeric d behind) ||
  (c == '*' && behind.head? == some '/' && behind.tail.head?.any isSign) ||
  (0x80 ≤ c.toNat && Text.isBlank c) ||
  match d with
  | .mysql =>
    (behind.take 2 == ['-', '-'] && isControl c && !Text.isBlank c) ||
    (behind.head? == some '@' && !(insideName d c || c == ' ')) ||
    (c == '@' && behind.head?.any fun b => b == '<' || b == '^')
  | .postgres =>
    (c == '-' && behind.head? == some '-' && behind.tail.head?.any isSign) ||
    (c == '$' && (numeric d behind ||
      (wordBehind d behind).head? == some '$' && openedTag (wordBehind d behind) == none))

/-- Whether the cut into tokens may differ at a character. Besides the places in code, these are a
backslash in a literal of digits and an exclamation mark that makes a MySQL comment code. -/
def doubt (d : Dialect) : Mode → Char → Bool
  | .outside behind, c => doubtOutside d behind c
  | .inside q, c => q.digits && c == '\\'
  | .shut q, c => c != q.mark && doubtOutside d [] c
  | .block _ before, c => d == .mysql && before == none && c == '!'
  | _, _ => false

def doubtful (d : Dialect) : Mode → List Char → Bool
  | _, [] => false
  | m, c :: r => doubt d m c || doubtful d (next d m c) r

theorem openedTag_eq_none {word : List Char} (h : word.head? ≠ some '$') :
    openedTag word = none := by
  unfold openedTag
  split
  · exact absurd rfl h
  · rfl

theorem paramDigit_eq_nil (c : Char) {word : List Char} (h : word.head? ≠ some '$') :
    paramDigit c word = [] := by
  unfold paramDigit
  split
  · exact absurd rfl h
  · exact absurd rfl h
  · rfl

/-! ### Texts behind each other -/

section

variable {d : Dialect} {m : Mode}

@[simp]
theorem after_nil : after d m [] = m := rfl

@[simp]
theorem after_cons (c : Char) (r : List Char) : after d m (c :: r) = after d (next d m c) r := rfl

theorem after_append (s t : List Char) : after d m (s ++ t) = after d (after d m s) t :=
  List.foldl_append

@[simp]
theorem marks_nil : marks d m [] = [] := rfl

@[simp]
theorem marks_cons (c : Char) (r : List Char) :
    marks d m (c :: r) = mark d m c ++ marks d (next d m c) r := rfl

theorem marks_append (s t : List Char) :
    marks d m (s ++ t) = marks d m s ++ marks d (after d m s) t := by
  induction s generalizing m with
  | nil => rfl
  | cons c s ih => rw [List.cons_append, marks_cons, marks_cons, ih, List.append_assoc, after_cons]

@[simp]
theorem doubtful_nil : doubtful d m [] = false := rfl

@[simp]
theorem doubtful_cons (c : Char) (r : List Char) :
    doubtful d m (c :: r) = (doubt d m c || doubtful d (next d m c) r) := rfl

theorem doubtful_append (s t : List Char) :
    doubtful d m (s ++ t) = (doubtful d m s || doubtful d (after d m s) t) := by
  induction s generalizing m with
  | nil => rfl
  | cons c s ih =>
    rw [List.cons_append, doubtful_cons, doubtful_cons, ih, Bool.or_assoc, after_cons]

end

end QueryDesk.Sql.Server
