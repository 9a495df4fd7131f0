import QueryDesk.Dialect
import QueryDesk.Text.Blank

/-!
# SQL tokens

A statement text as a list of tokens, by the lexical rules of its dialect. Comments and blanks are
one kind of token, which the grammar passes over. A text with an open quote or comment has no
tokens.
-/

namespace QueryDesk.Sql

inductive TextStyle where
  | plain
  | double
  | national
  | hex
  | bytes
  | doubleBytes
  | escaped
  | unicode
  | dollar (tag : String)
deriving DecidableEq

inductive Token where
  | word (text : String) (quote : Option Char)
  | number (text : String)
  | text (style : TextStyle) (content : String)
  | placeholder (text : String)
  /-- An operator or a punctuation mark by its spelling. -/
  | sign (spelling : String)
  /-- An operator that only the database knows. -/
  | custom (spelling : String)
  | other (c : Char)
  /-- Blanks or a comment. -/
  | blank
deriving DecidableEq

namespace Token

/-- A token as it is shown in a message. -/
def spelled : Token → String
  | .word s none => s
  | .word s (some q) => String.ofList (q :: (s.toList ++ [q]))
  | .number s => s
  | .text .plain s => "'" ++ s ++ "'"
  | .text .double s => "\"" ++ s ++ "\""
  | .text .national s => "N'" ++ s ++ "'"
  | .text .hex s => "X'" ++ s ++ "'"
  | .text .bytes s => "B'" ++ s ++ "'"
  | .text .doubleBytes s => "B\"" ++ s ++ "\""
  | .text .escaped s => "E'" ++ s ++ "'"
  | .text .unicode s => "U&'" ++ s ++ "'"
  | .text (.dollar tag) s => "$" ++ tag ++ "$" ++ s ++ "$" ++ tag ++ "$"
  | .placeholder s => s
  | .sign s => s
  | .custom s => s
  | .other c => String.singleton c
  | .blank => " "

end Token

/-! ### Characters of names -/

/-- May begin a name. Every character beyond ASCII may. -/
def startsName (d : Dialect) (c : Char) : Bool :=
  c.isAlpha || c == '_' || 0x80 ≤ c.toNat || (d == .mysql && (c == '$' || c == '@'))

/-- May stand inside a name. -/
def insideName (d : Dialect) (c : Char) : Bool := startsName d c || c.isDigit || c == '$'

/-- May be part of an operator of the database's own. -/
def insideOperator (d : Dialect) (c : Char) : Bool :=
  d == .postgres && "+-*/<>=~!@#%^&|`?".toList.contains c

def isHexDigit (c : Char) : Bool :=
  c.isDigit || ('a' ≤ c && c ≤ 'f') || ('A' ≤ c && c ≤ 'F')

/-! ### Quoted texts -/

/-- The content of a quoted name, its quote `q` doubled inside; the opening quote has been read. -/
def quotedName (q : Char) : List Char → Option (List Char × List Char)
  | [] => none
  | c :: r =>
    if c = q then
      match r with
      | d :: r' => if d = q then (quotedName q r').map fun (s, t) => (q :: s, t) else some ([], r)
      | [] => some ([], [])
    else (quotedName q r).map fun (s, t) => (c :: s, t)

/-- What a backslash makes of the character behind it. -/
def backslashed (c : Char) : List Char :=
  match c with
  | '0' => [Char.ofNat 0]
  | 'a' => [Char.ofNat 7]
  | 'b' => [Char.ofNat 8]
  | 'f' => [Char.ofNat 12]
  | 'n' => ['\n']
  | 'r' => ['\r']
  | 't' => ['\t']
  | 'Z' => [Char.ofNat 26]
  | c => [c]

/-- What an escaped character stands for. A backslash in front of a wildcard stays, where the
dialect keeps it. -/
def escapedText (keepsWildcards : Bool) (c : Char) : List Char :=
  if keepsWildcards && (c == '%' || c == '_') then ['\\', c] else backslashed c

/-- A backslash, in a text where it escapes. -/
def isEscape (escapes : Bool) (c : Char) : Bool := escapes && c == '\\'

/-- The content of a quoted text; `escapes` says whether a backslash escapes. In the texts of a
`keepsWildcards` dialect a backslash in front of a wildcard stays. -/
def quotedText (q : Char) (escapes keepsWildcards : Bool) :
    List Char → Option (List Char × List Char)
  | [] => none
  | c :: r =>
    if c = q then
      match r with
      | d :: r' =>
        if d = q then
          (quotedText q escapes keepsWildcards r').map fun (s, t) => (q :: s, t)
        else some ([], r)
      | [] => some ([], [])
    else if isEscape escapes c then
      match r with
      | d :: r' =>
        (quotedText q escapes keepsWildcards r').map fun (s, t) =>
          (escapedText keepsWildcards d ++ s, t)
      | [] => none
    else (quotedText q escapes keepsWildcards r).map fun (s, t) => (c :: s, t)

/-- A token from the content of a quoted text. -/
def textToken (style : TextStyle) (found : Option (List Char × List Char)) :
    Option (Token × List Char) :=
  found.map fun (s, r) => (.text style (String.ofList s), r)

/-! ### Comments -/

/-- What follows a comment to the end of the line. -/
def afterLine (d : Dialect) : List Char → List Char
  | [] => []
  | c :: r => if c = '\n' || (c == '\r' && d == .postgres) then r else afterLine d r

/-- What stands in a comment between slashes and stars, its last star included, and what follows.
`depth` further comments are open around it; `before` is a character that may begin a mark. -/
def blockComment (nests : Bool) (depth : Nat) (before : Option Char) :
    List Char → Option (List Char × List Char)
  | [] => none
  | c :: r =>
    if before = some '*' ∧ c = '/' then
      if depth = 0 then some ([], r)
      else (blockComment nests (depth - 1) none r).map fun (s, t) => (c :: s, t)
    else if before = some '/' ∧ c = '*' ∧ nests then
      (blockComment nests (depth + 1) none r).map fun (s, t) => (c :: s, t)
    else (blockComment nests depth (some c) r).map fun (s, t) => (c :: s, t)

/-! ### Numbers -/

/-- Digits, with single underscores between them where `separators` allows it. -/
def digitRun (separators : Bool) (isDigit : Char → Bool) : List Char → List Char × List Char
  | [] => ([], [])
  | c :: r =>
    if isDigit c || (c == '_' && separators && (r.head?.any isHexDigit)) then
      let (s, t) := digitRun separators isDigit r
      (c :: s, t)
    else ([], c :: r)

/-- The sign of an exponent, if there is one. -/
def signRun : List Char → List Char × List Char
  | '+' :: r => (['+'], r)
  | '-' :: r => (['-'], r)
  | r => ([], r)

/-- The exponent of a number, if digits follow. -/
def exponentRun (cs : List Char) : List Char × List Char :=
  match cs with
  | e :: r =>
    if e == 'e' || e == 'E' then
      let (sign, r) := signRun r
      let ds := r.takeWhile Char.isDigit
      if ds.isEmpty then ([], cs) else (e :: (sign ++ ds), r.dropWhile Char.isDigit)
    else ([], cs)
  | [] => ([], [])

def isWord : Option Token → Bool
  | some (.word _ _) => true
  | _ => false

/-- The point of a number, if there is one. -/
def pointRun : List Char → List Char × List Char
  | '.' :: r => (['.'], r)
  | r => ([], r)

/-- A number whose digits and point have been read. In MySQL letters make it a name. -/
def numberEnd (d : Dialect) (before : Option Token) (digits rest : List Char) :
    Option (Token × List Char) :=
  let marked := rest.head?.any fun c => c == 'e' || c == 'E'
  let (exponent, rest) := exponentRun rest
  let s := digits ++ exponent
  let tail := if d == .mysql && !marked then rest.takeWhile (insideName d) else []
  if !tail.isEmpty then
    some (.word (String.ofList (s ++ tail)) none, rest.dropWhile (insideName d))
  else if d == .mysql && marked && before == some (.sign ".") then
    some (.word (String.ofList s) none, rest)
  else match rest with
    | 'L' :: r => some (.number (String.ofList (s ++ ['L'])), r)
    | r => some (.number (String.ofList s), r)

/-- A number, a point, or in MySQL a name that begins with digits. -/
def numberToken (d : Dialect) (before : Option Token) (cs : List Char) :
    Option (Token × List Char) :=
  match cs with
  | '.' :: '_' :: _ => if isWord before then some (.sign ".", cs.drop 1) else none
  | _ =>
    let separators := d == .postgres
    let (whole, rest) := digitRun separators Char.isDigit cs
    match whole, rest with
    | ['0'], 'x' :: r =>
      let (ds, r) := digitRun separators isHexDigit r
      some (.text .hex (String.ofList ds), r)
    | _, _ =>
      let (point, rest) := pointRun rest
      -- Behind a word the point is that of a dotted name.
      if d == .mysql && whole.isEmpty && isWord before then some (.sign ".", rest) else
      let (part, rest) := digitRun separators Char.isDigit rest
      if whole ++ point ++ part == ['.'] then some (.sign ".", rest)
      else numberEnd d before (whole ++ point ++ part) rest

/-! ### Words and operators -/

/-- A bare name whose first characters have been read. -/
def wordToken (d : Dialect) (start : List Char) (r : List Char) : Option (Token × List Char) :=
  let text := start ++ r.takeWhile (insideName d)
  some (.word (String.ofList text) none, r.dropWhile (insideName d))

/-- An operator that further operator characters turn into one of the database's own. -/
def operatorToken (d : Dialect) (spelling : String) (r : List Char) : Option (Token × List Char) :=
  let more := r.takeWhile (insideOperator d)
  if more.isEmpty then some (.sign spelling, r)
  else some (.custom (spelling ++ String.ofList more), r.dropWhile (insideOperator d))

/-- An operator that is none unless further operator characters follow. -/
def onlyCustom (d : Dialect) (spelling : String) (r : List Char) : Option (Token × List Char) :=
  let more := r.takeWhile (insideOperator d)
  if more.isEmpty then none
  else some (.custom (spelling ++ String.ofList more), r.dropWhile (insideOperator d))

def signToken (spelling : String) (r : List Char) : Option (Token × List Char) :=
  some (.sign spelling, r)

/-- A token that begins with a dollar sign in Postgres: a parameter, or a text between tags. -/
def dollarToken (r : List Char) : Option (Token × List Char) :=
  let tag := r.takeWhile fun c => c.isAlphanum || c == '_' || 0x80 ≤ c.toNat
  match r.dropWhile fun c => c.isAlphanum || c == '_' || 0x80 ≤ c.toNat with
  | '$' :: r =>
    let ending := '$' :: (tag ++ ['$'])
    (Text.cutAtWord ending r).map fun (s, r) =>
      (.text (.dollar (String.ofList tag)) (String.ofList s), r)
  | r => some (.placeholder (String.ofList ('$' :: tag)), r)

def lessToken (d : Dialect) (r : List Char) : Option (Token × List Char) :=
  let geometric := d == .postgres
  match r with
  | '=' :: '>' :: r => operatorToken d "<=>" r
  | '=' :: r => operatorToken d "<=" r
  | '>' :: r => operatorToken d "<>" r
  | '<' :: r =>
    match geometric, r with
    | true, '|' :: r => operatorToken d "<<|" r
    | _, r => operatorToken d "<<" r
  | '@' :: r => operatorToken d "<@" r
  | '|' :: r' => if geometric then operatorToken d "<<|" r' else operatorToken d "<" r
  | '^' :: r' => if geometric then operatorToken d "<^" r' else operatorToken d "<" r
  | '-' :: r' =>
    if geometric then
      match r' with
      | '>' :: r'' => operatorToken d "<->" r''
      | _ => onlyCustom d "<-" r'
    else operatorToken d "<" r
  | r => operatorToken d "<" r

def bangToken (r : List Char) : Option (Token × List Char) :=
  match r with
  | '=' :: r => signToken "<>" r
  | '!' :: r => signToken "!!" r
  | '~' :: '~' :: '*' :: r => signToken "!~~*" r
  | '~' :: '~' :: r => signToken "!~~" r
  | '~' :: '*' :: r => signToken "!~*" r
  | '~' :: r => signToken "!~" r
  | r => signToken "!" r

def barToken (d : Dialect) (r : List Char) : Option (Token × List Char) :=
  let geometric := d == .postgres
  match r with
  | '/' :: r => operatorToken d "|/" r
  | '|' :: '/' :: r => operatorToken d "||/" r
  | '|' :: r => operatorToken d "||" r
  | '&' :: r' =>
    if geometric then
      match r' with
      | '>' :: r'' => operatorToken d "|&>" r''
      | _ => onlyCustom d "|&" r'
    else operatorToken d "|" r
  | '>' :: r' =>
    if geometric then
      match r' with
      | '>' :: r'' => operatorToken d "|>>" r''
      | _ => onlyCustom d "|>" r'
    else operatorToken d "|" r
  | r => operatorToken d "|" r

def ampersandToken (d : Dialect) (r : List Char) : Option (Token × List Char) :=
  let geometric := d == .postgres
  match r with
  | '&' :: r => operatorToken d "&&" r
  | '>' :: r' => if geometric then operatorToken d "&>" r' else operatorToken d "&" r
  | '<' :: r' =>
    if geometric then
      match r' with
      | '|' :: r'' => operatorToken d "&<|" r''
      | _ => operatorToken d "&<" r'
    else operatorToken d "&" r
  | r => operatorToken d "&" r

def atToken (d : Dialect) (r : List Char) : Option (Token × List Char) :=
  match r with
  | '>' :: r => signToken "@>" r
  | '?' :: r => signToken "@?" r
  | '@' :: ' ' :: _ => signToken "@@" (r.drop 1)
  | '@' :: c :: r' =>
    if startsName d '@' then wordToken d ['@', '@', c] r' else signToken "@@" (c :: r')
  | ['@'] => signToken "@@" []
  | c :: r' =>
    if c == ' ' || c == '\'' || c == '"' || c == '`' || !startsName d '@' then signToken "@" r
    else wordToken d ['@', c] r'
  | [] => signToken "@" []

def questionToken (d : Dialect) (r : List Char) : Option (Token × List Char) :=
  if d == .mysql then
    some (.placeholder (String.ofList ('?' :: r.takeWhile Char.isDigit)), r.dropWhile Char.isDigit)
  else match r with
    | '|' :: '|' :: r => signToken "?||" r
    | '|' :: r => signToken "?|" r
    | '&' :: r => signToken "?&" r
    | '-' :: '|' :: r => signToken "?-|" r
    | '-' :: r => signToken "?-" r
    | '#' :: r => signToken "?#" r
    | r => signToken "?" r

def tildeToken (d : Dialect) (r : List Char) : Option (Token × List Char) :=
  match r with
  | '*' :: r => operatorToken d "~*" r
  | '~' :: '*' :: r => operatorToken d "~~*" r
  | '~' :: r => operatorToken d "~~" r
  | '=' :: r' => if d == .postgres then operatorToken d "~=" r' else operatorToken d "~" r
  | r => operatorToken d "~" r

/-- A token that begins with a number sign in Postgres. -/
def sharpToken (r : List Char) : Option (Token × List Char) :=
  match r with
  | '-' :: r => operatorToken .postgres "#-" r
  | '>' :: '>' :: r => operatorToken .postgres "#>>" r
  | '>' :: r => operatorToken .postgres "#>" r
  | ' ' :: _ => signToken "#" r
  | '#' :: r => operatorToken .postgres "##" r
  | r => operatorToken .postgres "#" r

/-! ### The next token -/

/-- A comment's content, read as code where a MySQL comment begins with an exclamation mark. -/
inductive Scan where
  | token (t : Token) (rest : List Char)
  | hint (content rest : List Char)

def Scan.ofToken? (found : Option (Token × List Char)) : Option Scan :=
  found.map fun (t, r) => .token t r

/-- The style, the mark and the content of a quoted text that begins with a letter, and whether a
backslash escapes in it. -/
def lettered? (d : Dialect) (c : Char) (r : List Char) :
    Option (TextStyle × Char × Bool × List Char) :=
  let mysql := d == .mysql
  if c == 'b' || c == 'B' then
    match r with
    | '\'' :: r => some (.bytes, '\'', false, r)
    | '"' :: r => some (.doubleBytes, '"', false, r)
    | _ => none
  else if c == 'n' || c == 'N' then
    match r with
    | '\'' :: r => some (.national, '\'', mysql, r)
    | _ => none
  else if (c == 'e' || c == 'E') && !mysql then
    match r with
    | '\'' :: r => some (.escaped, '\'', true, r)
    | _ => none
  else if (c == 'u' || c == 'U') && !mysql then
    match r with
    | '&' :: '\'' :: r => some (.unicode, '\'', false, r)
    | _ => none
  else if c == 'x' || c == 'X' then
    match r with
    | '\'' :: r => some (.hex, '\'', true, r)
    | _ => none
  else none

/-- A comment between slashes and stars whose opening has been read. -/
def commentFrom (d : Dialect) (r : List Char) : Option Scan :=
  (blockComment (d != .mysql) 0 none r).map fun (s, r) =>
    match s.dropLast with
    | '!' :: hint => if d == .mysql then .hint (hint.dropWhile Char.isDigit) r else .token .blank r
    | _ => .token .blank r

/-- A comment or a token that begins with a dash. -/
def dashFrom (d : Dialect) (r : List Char) : Option Scan :=
  match r with
  | '-' :: r' =>
    if d != .mysql || r'.head?.any Text.isBlank then some (.token .blank (afterLine d r'))
    else Scan.ofToken? (operatorToken d "-" r)
  | '>' :: '>' :: r => Scan.ofToken? (operatorToken d "->>" r)
  | '>' :: r => Scan.ofToken? (operatorToken d "->" r)
  | r => Scan.ofToken? (operatorToken d "-" r)

def percentToken (d : Dialect) (r : List Char) : Option (Token × List Char) :=
  match r with
  | s :: _ => if Text.isBlank s then signToken "%" r else operatorToken d "%" r
  | [] => signToken "%" r

def equalsToken (r : List Char) : Option (Token × List Char) :=
  match r with
  | '>' :: r => signToken "=>" r
  | '=' :: r => signToken "==" r
  | r => signToken "=" r

def greaterToken (d : Dialect) (r : List Char) : Option (Token × List Char) :=
  match r with
  | '=' :: r => operatorToken d ">=" r
  | '>' :: r => operatorToken d ">>" r
  | '^' :: r' => if d == .mysql then operatorToken d ">" r else operatorToken d ">^" r'
  | r => operatorToken d ">" r

def colonToken (r : List Char) : Option (Token × List Char) :=
  match r with
  | ':' :: r => signToken "::" r
  | '=' :: r => signToken ":=" r
  | r => signToken ":" r

def caretToken (r : List Char) : Option (Token × List Char) :=
  match r with
  | '@' :: r => signToken "^@" r
  | r => signToken "^" r

/-- The first token of a text that begins with a sign, or with a letter that has no mark behind it.
-/
def signFrom (d : Dialect) (c : Char) (r : List Char) : Option Scan :=
  match c with
  | '(' | ')' | ',' | '+' | '*' | ';' | '\\' | '[' | ']' | '\x7b' | '\x7d' =>
    Scan.ofToken? (signToken (String.singleton c) r)
  | '-' => dashFrom d r
  | '/' =>
    match r with
    | '*' :: r => commentFrom d r
    | r => Scan.ofToken? (signToken "/" r)
  | '%' => Scan.ofToken? (percentToken d r)
  | '|' => Scan.ofToken? (barToken d r)
  | '=' => Scan.ofToken? (equalsToken r)
  | '!' => Scan.ofToken? (bangToken r)
  | '<' => Scan.ofToken? (lessToken d r)
  | '>' => Scan.ofToken? (greaterToken d r)
  | ':' => Scan.ofToken? (colonToken r)
  | '&' => Scan.ofToken? (ampersandToken d r)
  | '^' => Scan.ofToken? (caretToken r)
  | '#' =>
    if d == .mysql then some (.token .blank (afterLine d r)) else Scan.ofToken? (sharpToken r)
  | '~' => Scan.ofToken? (tildeToken d r)
  | '@' => Scan.ofToken? (atToken d r)
  | '?' => Scan.ofToken? (questionToken d r)
  | c =>
    if startsName d c then Scan.ofToken? (wordToken d [c] r)
    else if c == '$' then Scan.ofToken? (dollarToken r)
    else if Text.isBlank c then some (.token .blank r)
    else some (.token (.other c) r)

/-- The first token of a text that begins with `c`. -/
def scanFrom (d : Dialect) (before : Option Token) (c : Char) (r : List Char) : Option Scan :=
  let quoted (style : TextStyle) (q : Char) (escapes : Bool) (r : List Char) :=
    Scan.ofToken? (textToken style (quotedText q escapes (d == .mysql) r))
  if c == ' ' || c == '\t' || c == '\n' || c == '\r' then some (.token .blank r)
  -- The letter belongs to the quotes behind it, so this comes before words.
  else match lettered? d c r with
    | some (style, q, escapes, r) => quoted style q escapes r
    | none =>
      if c == '\'' then quoted .plain '\'' (d == .mysql) r
      else if c == '"' && d == .mysql then quoted .double '"' true r
      else if c == d.quote then
        Scan.ofToken? ((quotedName c r).map fun (s, r) => (.word (String.ofList s) (some c), r))
      else if c.isDigit || c == '.' then Scan.ofToken? (numberToken d before (c :: r))
      else signFrom d c r

/-- The tokens of a text, blanks among them. `before` is the token in front. -/
def scan (d : Dialect) : Nat → Option Token → List Char → Option (List Token)
  | 0, _, _ => none
  | _ + 1, _, [] => some []
  | fuel + 1, before, c :: r =>
    match scanFrom d before c r with
    | none => none
    | some (.token t rest) => (scan d fuel (some t) rest).map (t :: ·)
    | some (.hint content rest) =>
      -- Scanned by itself, so that no token reaches over the end of the comment.
      match scan d fuel before content with
      | none => none
      | some ts => (scan d fuel (ts.getLast?.or before) rest).map (ts ++ ·)

/-- The tokens that count, or nothing for a text with an open quote or comment. -/
def tokens? (d : Dialect) (s : String) : Option (List Token) :=
  (scan d (s.toList.length + 1) none s.toList).map (·.filter (· != .blank))

end QueryDesk.Sql
