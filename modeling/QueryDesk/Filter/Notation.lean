import QueryDesk.Filter.Basic
import QueryDesk.Number.Reading
import QueryDesk.Text.Blank
import QueryDesk.Text.Pieces

/-!
# The filter notation

The compact language in which people type filters: `> 5`, `LIKE "a%"`, `IN (1, 'x')`, `IS NULL`.
`read?` recognises an operator at the front of a text by a list of forms, of which the first that
fits decides. `read` also accepts a bare value and takes the operator from the type of the column.
`write` is the way back: a filter as text that reads as that filter.
-/

namespace QueryDesk.Notation

inductive Error where
  | empty
  | missingValue
  | unterminated
  | invalidLiteral (token : String)
deriving DecidableEq

def Error.message : Error → String
  | empty => "Filter value is empty"
  | missingValue => "Missing value"
  | unterminated => "Unterminated string literal"
  | invalidLiteral token => "Invalid literal: " ++ token

/-- An operator with the values it is applied to. -/
structure Reading where
  operator : Operator
  operands : List Operand
deriving DecidableEq

def Reading.toFilter (r : Reading) (column : String) : Filter :=
  Filter.on column r.operator r.operands

/-! ### Values -/

def isQuote (c : Char) : Bool := c == '"' || c == '\''

/-- The text behind an opening quote `q`. A backslash takes the next character as it is; the quote
closes only as the last character, anywhere else it is part of the text. -/
def unquote (q : Char) : List Char → Except Error (List Char)
  | [] => .error .unterminated
  | '\\' :: c :: r => (unquote q r).map (c :: ·)
  | ['\\'] => .error .unterminated
  | [c] => if c = q then .ok [] else .error .unterminated
  | c :: r => (unquote q r).map (c :: ·)

/-- Takes each backslash away from the character behind it. -/
def unescape : List Char → List Char
  | [] => []
  | '\\' :: c :: r => c :: unescape r
  | ['\\'] => []
  | c :: r => c :: unescape r

/-- An integer in 64 bits, or else a finite decimal. -/
def number? (cs : List Char) : Option Value :=
  match Number.readInt64? cs with
  | some n => some (.int (Int64.ofInt n))
  | none =>
    match Number.readBinary64? cs with
    -- Infinities, NaN and what overflows to an infinity stay texts.
    | some x => if x.isFinite then some (.float x) else none
    | none => none

/-- One value: a quoted text, a number, or else a bare text. -/
def scalar (cs : List Char) : Except Error Value :=
  match Text.trim cs with
  | [] => .error .missingValue
  | c :: r =>
    if isQuote c then (unquote c r).map fun s => .text (String.ofList s)
    else .ok ((number? (c :: r)).getD (.text (String.ofList (c :: r))))

def isQuoted : List Char → Bool
  | c :: r => isQuote c && r.getLast? == some c
  | [] => false

/-! ### Lists -/

/-- Cuts at the commas outside quotes and trims the items. `inside` is the quote that is open,
`item` the current item, last character first. -/
def splitItems (inside : Option Char) (item : List Char) :
    List Char → Except Error (List (List Char))
  | [] => if inside.isSome then .error .unterminated else .ok [Text.trim item.reverse]
  | c :: r =>
    match inside with
    | some q =>
      if c = '\\' then
        -- The character behind it is taken along, so an escaped quote closes nothing.
        match r with
        | d :: r => splitItems inside (d :: c :: item) r
        | [] => .error .unterminated
      else splitItems (if c = q then none else inside) (c :: item) r
    | none =>
      if isQuote c then splitItems (some c) (c :: item) r
      else if c = ',' then (splitItems none [] r).map (Text.trim item.reverse :: ·)
      else splitItems none (c :: item) r

/-- An item of a list: a quoted text or a number. -/
def item (cs : List Char) : Except Error Value :=
  if isQuoted cs then .ok (.text (String.ofList (unescape (cs.drop 1).dropLast)))
  else match number? cs with
    | some v => .ok v
    | none => .error (.invalidLiteral (String.ofList cs))

def list (cs : List Char) : Except Error (List Value) :=
  if cs.all Text.isBlank then .ok []
  else do
    let items ← splitItems none [] cs
    items.mapM item

/-! ### Forms -/

/-- What an operator expects behind it. -/
inductive Tail where
  | nothing
  | scalar
  | quoted
  | list
deriving DecidableEq

/-- How an operator is written: as words with blanks between them, or as a sign. -/
structure Form where
  operator : Operator
  words : List String
  tail : Tail

/-- A letter of a keyword, in either case. Long s and the Kelvin sign are cases of s and k. -/
def sameLetter (key c : Char) : Bool :=
  c.toLower == key || (key == 's' && c.toNat == 0x17F) || (key == 'k' && c.toNat == 0x212A)

def afterWord? : List Char → List Char → Option (List Char)
  | [], cs => some cs
  | key :: word, c :: cs => if sameLetter key c then afterWord? word cs else none
  | _ :: _, [] => none

/-- Takes one or more blanks off the front. -/
def afterBlanks? : List Char → Option (List Char)
  | c :: cs => if Text.isBlank c then some (Text.trimLeft cs) else none
  | [] => none

/-- Takes words with blanks between them off the front. -/
def afterWords? : List String → List Char → Option (List Char)
  | [], cs => some cs
  | [w], cs => afterWord? w.toList cs
  | w :: ws, cs => ((afterWord? w.toList cs).bind afterBlanks?).bind (afterWords? ws)

/-- What is left for the operand of a form, if the text has that form. -/
def Form.match? (f : Form) (cs : List Char) : Option (List Char) := do
  let rest ← afterWords? f.words cs
  match f.tail with
  | .nothing => if rest.isEmpty then some [] else none
  | .scalar => some (Text.trimLeft rest)
  | .quoted =>
    match Text.trimLeft rest with
    | c :: r => if isQuote c then some (c :: r) else none
    | [] => none
  | .list =>
    match Text.trimLeft rest with
    | '(' :: r => if r.getLast? == some ')' then some r.dropLast else none
    | _ => none

/-- The forms in the order in which they are tried. Of two of which one begins like the other, the
longer one comes first. -/
def forms : List Form := [
  ⟨.notLike, ["not", "like"], .quoted⟩,
  ⟨.like, ["like"], .quoted⟩,
  ⟨.notContains, ["not", "contains"], .quoted⟩,
  ⟨.contains, ["contains"], .quoted⟩,
  ⟨.notIn, ["not", "in"], .list⟩,
  ⟨.isIn, ["in"], .list⟩,
  ⟨.isNotNull, ["is", "not", "null"], .nothing⟩,
  ⟨.isNull, ["is", "null"], .nothing⟩,
  ⟨.ge, [">="], .scalar⟩,
  ⟨.le, ["<="], .scalar⟩,
  ⟨.differs, ["<>"], .scalar⟩,
  ⟨.bangEq, ["!="], .scalar⟩,
  ⟨.gt, [">"], .scalar⟩,
  ⟨.lt, ["<"], .scalar⟩,
  ⟨.eq, ["="], .scalar⟩]

def Tail.operands (tail : Tail) (body : List Char) : Except Error (List Operand) :=
  match tail with
  | .nothing => .ok []
  | .scalar => (Notation.scalar body).map fun v => [.literal v]
  | .quoted => (Notation.scalar body).map fun v => [.literal v]
  | .list => (Notation.list body).map (·.map .literal)

/-- Reads a text by the first of some forms that it has. -/
def readBy (fs : List Form) (cs : List Char) : Except Error (Option Reading) :=
  match fs with
  | [] => .ok none
  | f :: fs =>
    match f.match? cs with
    | some body => (f.tail.operands body).map fun vs => some ⟨f.operator, vs⟩
    | none => readBy fs cs

/-- Reads a filter; a text without operator gives nothing. -/
def read? (text : String) : Except Error (Option Reading) := readBy forms (Text.trim text.toList)

/-- Reads a filter for a column of a declared type. A text without operator is the value of the
column's default operator. -/
def read (text : String) (declared : Option String) : Except Error Reading := do
  match ← read? text with
  | some r => pure r
  | none =>
    match Text.trim text.toList with
    | [] => .error .empty
    | c :: r =>
      -- Only a column of numbers makes a number of a bare value.
      let v ←
        if declared.any ColumnKind.isNumber then scalar (c :: r)
        else if isQuoted (c :: r) then (unquote c r).map fun s => .text (String.ofList s)
        else pure (.text (String.ofList (c :: r)))
      pure ⟨Operator.default declared .contains, [.literal v]⟩

/-! ### Writing -/

/-- A backslash in front of backslashes and double quotes. -/
def escape : List Char → List Char
  | [] => []
  | c :: r => if c = '\\' ∨ c = '"' then '\\' :: c :: escape r else c :: escape r

def quote (s : String) : String := String.ofList ('"' :: (escape s.toList ++ ['"']))

def literal : Value → String
  | .text s => quote s
  | v => v.display

/-- The text stands for itself: read without an operator it gives itself back. -/
def standsBare (s : String) : Bool :=
  match s.toList with
  | [] => false
  | c :: r => Text.trim (c :: r) == c :: r && !isQuote c && read? s matches .ok none

/-- The text of a filter on a column of a declared type. Equality on numbers and `CONTAINS` on texts
are the defaults of their columns and are written as the bare value where that reads back. -/
def write (f : Filter) (declared : String) : String :=
  let first := f.operands.head?.map (·.value)
  match f.operator with
  | .isNull => f.operator.symbol
  | .isNotNull => f.operator.symbol
  | .isIn | .notIn =>
    f.operator.symbol ++ " (" ++ Text.join ", " (f.operands.map (literal ·.value)) ++ ")"
  | .like | .notLike | .notContains =>
    f.operator.symbol ++ " " ++ quote ((first.map Value.display).getD "")
  | .contains =>
    if ColumnKind.isText declared then
      match first with
      | some (.text s) => if standsBare s then s else "CONTAINS " ++ quote s
      | some v => "CONTAINS " ++ quote v.display
      | none => ""
    else "CONTAINS " ++ quote ((first.map Value.display).getD "")
  | .eq =>
    if ColumnKind.isNumber declared then (first.map literal).getD ""
    else match first with
      | some v => "= " ++ literal v
      | none => "="
  | _ =>
    match first with
    | some v => f.operator.symbol ++ " " ++ literal v
    | none => f.operator.symbol

end QueryDesk.Notation
