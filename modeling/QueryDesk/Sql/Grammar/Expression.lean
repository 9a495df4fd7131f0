import QueryDesk.Sql.Grammar.DataType

/-!
# Expressions

Operands, what may be attached to them, and the operators between them by how tightly they bind.
-/

namespace QueryDesk.Sql

open Rule

/-! ### How tightly operators bind -/

inductive Binding where
  | period
  | cast
  | timeZone
  | times
  | plus
  | xor
  | ampersand
  | caret
  | pipe
  | colon
  | between
  | eq
  | like
  | is
  | further
  | unaryNot
  | and
  | or

/-- How tightly a family binds; no operator binds at level zero. -/
def Binding.level (d : Dialect) (b : Binding) : Nat :=
  match d with
  | .mysql =>
    match b with
    | period => 100
    | cast => 50
    | timeZone => 41
    | times => 40
    | plus => 30
    | xor => 24
    | ampersand => 23
    | caret => 22
    | pipe => 21
    | colon => 21
    | between => 20
    | eq => 20
    | like => 19
    | is => 17
    | further => 16
    | unaryNot => 15
    | and => 10
    | or => 5
  | .postgres =>
    match b with
    | period => 200
    | cast => 140
    | timeZone => 110
    | times => 90
    | plus => 80
    | xor => 75
    | ampersand => 70
    | caret => 100
    | pipe => 70
    | colon => 70
    | between => 60
    | eq => 50
    | like => 60
    | is => 40
    | further => 70
    | unaryNot => 30
    | and => 20
    | or => 10

/-- Words behind `NOT` that make it an operator between two operands. -/
def Binding.afterNot? (k : String) : Option Binding :=
  if k == "IN" || k == "BETWEEN" then some .between
  else if ["LIKE", "ILIKE", "RLIKE", "REGEXP", "MATCH", "SIMILAR", "MEMBER"].contains k then some .like
  else if k == "NULL" then some .is
  else none

/-- The family of an operator that is a word. -/
def Binding.ofWord? (k k1 k2 : String) : Option Binding :=
  if k == "OR" then some .or
  else if k == "AND" then some .and
  else if k == "XOR" then some .xor
  else if k == "AT" then if k1 == "TIME" && k2 == "ZONE" then some .timeZone else none
  else if k == "NOT" then afterNot? k1
  else if k == "IS" then some .is
  else if ["IN", "BETWEEN", "OVERLAPS", "OPERATOR"].contains k then some .between
  else if ["LIKE", "ILIKE", "RLIKE", "REGEXP", "MATCH", "SIMILAR", "MEMBER"].contains k then some .like
  else if k == "DIV" then some .times
  else none

def comparisonSigns : List String := [
  ":=", "=", "<", "<=", "<>", ">", ">=", "==", "~", "~*", "!~", "!~*", "~~", "~~*", "!~~", "!~~*",
  "<=>"]

def documentSigns : List String := [
  "->", "->>", "#>", "#>>", "@>", "<@", "#-", "@?", "@@", "?", "?&", "?|"]

def geometricSigns : List String := [
  "?-", "##", "&&", "&<", "&>", "&<|", "|&>", "<<|", "|>>", "<->", "<^", ">^", "?#", "?-|", "?||",
  "~="]

/-- The level of an operator that is a sign. -/
def signLevel (d : Dialect) (s : String) (next1 next2 : Option Token) : Nat :=
  let level (b : Binding) := b.level d
  let postgresOwn := documentSigns ++ ["!", "&&", "^@", "||", "#", ">>", "<<"]
  -- What PostgreSQL has of its own is settled before the families.
  if d == .postgres && postgresOwn.contains s then level .further
  else if d == .postgres && s == "[" then 130
  else if d == .postgres && s == ":" then 0
  else if s == "." then level .period
  else if comparisonSigns.contains s then level .eq
  else if s == "|" || geometricSigns.contains s then level .pipe
  else if ["^", "#", ">>", "<<"].contains s then level .caret
  else if s == "&" then level .ampersand
  else if s == "+" || s == "-" then level .plus
  else if ["*", "/", "%", "||"].contains s then level .times
  else if ["::", "!", "[", "^@"].contains s then level .cast
  else if s == ":" then
    match next1, next2 with
    | some (.text .plain _), _ => 0
    | some (.number _), some (.sign "]") => 0
    | _, _ => level .colon
  else if documentSigns.contains s then level .further
  else 0

def nextLevel (d : Dialect) : Rule Nat := do
  match ← peek with
  | some (.word s none) =>
    let k := Text.uppercase s
    if d == .postgres && k == "COLLATE" then pure 120 else
    if d == .postgres && k == "NOTNULL" then pure (Binding.is.level d) else
    let k1 := keywordOf (← peekAt 1)
    let k2 := keywordOf (← peekAt 2)
    pure (((Binding.ofWord? k k1 k2).map (·.level d)).getD 0)
  | some (.sign s) => pure (signLevel d s (← peekAt 1) (← peekAt 2))
  | some (.custom _) => pure (Binding.further.level d)
  | _ => pure 0

/-! ### Parts of operands -/

def timeUnits : List String := [
  "YEAR", "YEARS", "MONTH", "MONTHS", "WEEK", "WEEKS", "DAY", "DAYS", "HOUR", "HOURS", "MINUTE",
  "MINUTES", "SECOND", "SECONDS", "CENTURY", "DECADE", "DOW", "DOY", "EPOCH", "ISODOW", "ISOYEAR",
  "JULIAN", "MICROSECOND", "MICROSECONDS", "MILLENIUM", "MILLENNIUM", "MILLISECOND",
  "MILLISECONDS", "NANOSECOND", "NANOSECONDS", "QUARTER", "TIMEZONE", "TIMEZONE_HOUR",
  "TIMEZONE_MINUTE"]

/-- Parts of a date that can be taken out of it. -/
def dateParts : List String :=
  timeUnits ++ ["DAYOFWEEK", "DAYOFYEAR", "DATE", "DATETIME", "ISOWEEK", "TIME", "TIMEZONE_ABBR",
    "TIMEZONE_REGION"]

/-- A part of a date. Postgres knows parts of its own. -/
def datePart (d : Dialect) : Rule Unit := do
  match ← next with
  | some (.word s quote) =>
    if d == .postgres || (quote.isNone && dateParts.contains (Text.uppercase s)) then pure ()
    else mismatch
  | some (.text .plain _) => if d == .postgres then pure () else mismatch
  | _ => mismatch

def orderItem (below : Rules) : Rule Unit := do
  let _ ← below.expr 0
  let _ ← oneOf ["ASC", "DESC"]
  if ← keywords ["NULLS", "FIRST"] then pure ()
  else if ← keywords ["NULLS", "LAST"] then pure ()
  else pure ()

def frameBound (below : Rules) : Rule Unit := do
  if ← keywords ["CURRENT", "ROW"] then pure ()
  else
    if ← keyword "UNBOUNDED" then pure () else
      let _ ← below.expr 0
    match ← oneOf ["PRECEDING", "FOLLOWING"] with
    | some _ => pure ()
    | none => mismatch

def windowSpec (below : Rules) : Rule Unit := do
  match ← peek with
  | some (.word s none) =>
    if ["PARTITION", "ORDER", "ROWS", "RANGE", "GROUPS"].contains (Text.uppercase s) then pure () else
      identifier
  | some (.word _ (some _)) => identifier
  | _ => pure ()
  if ← keywords ["PARTITION", "BY"] then commas (below.expr 0)
  if ← keywords ["ORDER", "BY"] then commas (orderItem below)
  match ← oneOf ["ROWS", "RANGE", "GROUPS"] with
  | some _ =>
    if ← keyword "BETWEEN" then
      frameBound below
      expectKeyword "AND"
      frameBound below
    else frameBound below
  | none => pure ()

/-- The rest of a dotted name that may end in a star. -/
def starTail : Nat → Rule (Option Shape)
  | 0 => mismatch
  | fuel + 1 => do
    if ← sign "." then
      match ← next with
      | some (.word _ _) => starTail fuel
      | some (.text .plain _) => starTail fuel
      | some (.sign "*") => pure (some .star)
      | _ => mismatch
    else pure none

/-- A star, a dotted name with a star, or an expression. -/
def starOrExpr (below : Rules) : Rule Shape := do
  let saved ← get
  -- What turns out to have no star is read again from its beginning.
  let dotted (p : Rule (Option Shape)) : Rule Shape := do
    match ← p with
    | some shape => pure shape
    | none =>
      set saved
      below.expr 0
  match ← next with
  | some (.sign "*") => pure .star
  | some (.sign "(") =>
    if isSign "*" (← peek) && isSign ")" (← peekAt 1) then
      let _ ← next
      let _ ← next
      pure .star
    else dotted (pure none)
  | some (.word _ _) => dotted do
    if ← atSign "." then starTail (saved.length + 1) else pure none
  | some (.text .plain _) => dotted do
    if ← atSign "." then starTail (saved.length + 1) else pure none
  | _ => dotted (pure none)

/-- The mark between the name of an argument and its value. -/
def argumentMark (d : Dialect) : Rule Unit := do
  if ← keyword "VALUE" then pure ()
  else if ← sign "=>" then pure ()
  else if d == .postgres then
    if ← sign ":=" then pure ()
    else expectSign ":"
  else mismatch

def argument (d : Dialect) (below : Rules) : Rule Unit := do
  -- Without a mark behind the name it was the value itself.
  let named ← attempt do
    match d with
    | .mysql => identifier
    | .postgres =>
      let _ ← below.expr 0
    argumentMark d
    let _ ← starOrExpr below
  match named with
  | some _ => pure ()
  | none =>
    let _ ← starOrExpr below

def nullTreatment : Rule Unit := do
  match ← oneOf ["RESPECT", "IGNORE"] with
  | some _ => expectKeyword "NULLS"
  | none => pure ()

def documentNulls : Rule Unit := do
  if ← keywords ["NULL", "ON", "NULL"] then pure ()
  else if ← keywords ["ABSENT", "ON", "NULL"] then pure ()
  else pure ()

/-- The arguments of a call; the opening parenthesis has been read. -/
def arguments (d : Dialect) (below : Rules) : Rule Unit := do
  documentNulls
  if ← sign ")" then pure () else
  match ← oneOf ["ALL", "DISTINCT"] with
  | some "ALL" => if ← atKeyword "DISTINCT" then mismatch else pure ()
  | _ => pure ()
  commas (argument d below)
  if ← keywords ["ORDER", "BY"] then commas (orderItem below)
  if ← keyword "LIMIT" then
    let _ ← below.expr 0
  if d == .mysql then
    if ← keyword "SEPARATOR" then value
  documentNulls
  expectSign ")"

/-- A call; its name has been read. -/
def call (d : Dialect) (below : Rules) : Rule Unit := do
  expectSign "("
  arguments d below
  if ← keywords ["WITHIN", "GROUP"] then
    inParens do
      expectKeyword "ORDER"
      expectKeyword "BY"
      commas (orderItem below)
  if d == .postgres then
    if ← keyword "FILTER" then
      inParens do
        expectKeyword "WHERE"
        let _ ← below.expr 0
  nullTreatment
  if ← keyword "OVER" then
    if ← atSign "(" then inParens (windowSpec below) else identifier

def caseBranches (below : Rules) : Nat → Rule Unit
  | 0 => mismatch
  | fuel + 1 => do
    let _ ← below.expr 0
    expectKeyword "THEN"
    let _ ← below.expr 0
    if ← keyword "WHEN" then caseBranches below fuel else pure ()

def caseExpr (below : Rules) : Rule Unit := do
  if ← keyword "WHEN" then pure () else
    let _ ← below.expr 0
    expectKeyword "WHEN"
  let ts ← get
  caseBranches below (ts.length + 1)
  if ← keyword "ELSE" then
    let _ ← below.expr 0
  expectKeyword "END"

/-- A cast; its keyword has been read. -/
def castExpr (d : Dialect) (below : Rules) : Rule Unit :=
  inParens do
    let _ ← below.expr 0
    expectKeyword "AS"
    let _ ← dataType d
    if ← keyword "FORMAT" then value

def convertExpr (d : Dialect) (below : Rules) : Rule Unit :=
  inParens do
    let _ ← below.expr 0
    if ← keyword "USING" then objectName else
      expectSign ","
      let _ ← dataType d
      if ← keywords ["CHARACTER", "SET"] then objectName

def extractExpr (d : Dialect) (below : Rules) : Rule Unit :=
  inParens do
    datePart d
    expectKeyword "FROM"
    let _ ← below.expr 0

/-- Rounding up or down, to a part of a date or to places. -/
def roundExpr (d : Dialect) (below : Rules) : Rule Unit :=
  inParens do
    let _ ← below.expr 0
    if ← keyword "TO" then datePart d
    else if ← sign "," then
      match ← next with
      | some (.number _) => pure ()
      | _ => mismatch

def substringExpr (below : Rules) : Rule Unit :=
  inParens do
    let _ ← below.expr 0
    let more ← (do
      if ← sign "," then pure true else keyword "FROM" : Rule Bool)
    if more then
      let _ ← below.expr 0
    let length ← (do
      if ← keyword "FOR" then pure true else sign "," : Rule Bool)
    if length then
      let _ ← below.expr 0

def overlayExpr (below : Rules) : Rule Unit :=
  inParens do
    let _ ← below.expr 0
    expectKeyword "PLACING"
    let _ ← below.expr 0
    expectKeyword "FROM"
    let _ ← below.expr 0
    if ← keyword "FOR" then
      let _ ← below.expr 0

def trimExpr (below : Rules) : Rule Unit :=
  inParens do
    let _ ← oneOf ["BOTH", "LEADING", "TRAILING"]
    let _ ← below.expr 0
    if ← keyword "FROM" then
      let _ ← below.expr 0

/-- A search for an operand in a text; else an ordinary call. -/
def positionExpr (d : Dialect) (below : Rules) : Rule Unit := do
  let found ← attempt do
    inParens do
      let _ ← below.expr (Binding.between.level d)
      expectKeyword "IN"
      let _ ← below.expr 0
  match found with
  | some _ => pure ()
  | none => call d below

/-- A length of time. MySQL wants a unit behind it and takes any expression in front; `operand` is
what Postgres takes. -/
def intervalExpr (d : Dialect) (below : Rules) (operand : Rule Shape) : Rule Unit := do
  match d with
  | .mysql =>
    let _ ← below.expr 0
  | .postgres =>
    let _ ← operand
  if timeUnits.contains (keywordOf (← peek)) then
    let first := keywordOf (← peek)
    datePart d
    if first == "SECOND" then DataType.optionalScale else
      DataType.optionalLength
      if ← keyword "TO" then
        let last := keywordOf (← peek)
        datePart d
        if last == "SECOND" then DataType.optionalLength
  else if d == .mysql then mismatch

def existsExpr (below : Rules) : Rule Unit := inParens below.query

def notExpr (d : Dialect) (below : Rules) : Rule Unit := do
  if ← keyword "EXISTS" then existsExpr below else
    let _ ← below.expr (Binding.unaryNot.level d)

def matchExpr : Rule Unit := do
  inParens (commas objectName)
  expectKeyword "AGAINST"
  inParens do
    value
    if ← keywords ["IN", "NATURAL", "LANGUAGE", "MODE"] then
      let _ ← keywords ["WITH", "QUERY", "EXPANSION"]
    else if ← keywords ["IN", "BOOLEAN", "MODE"] then pure ()
    else
      let _ ← keywords ["WITH", "QUERY", "EXPANSION"]

def arrayItems (below : Rules) : Rule Unit := do
  if ← sign "]" then pure () else
    commas (below.expr 0)
    expectSign "]"

/-! ### Operands -/

/-- The expression that a keyword begins, or nothing if it begins none. The word has been read. -/
def keywordOperand (d : Dialect) (below : Rules) (operand : Rule Shape) (k : String) :
    Rule (Option Shape) := do
  let other (p : Rule Unit) : Rule (Option Shape) := do
    p
    pure (some Shape.other)
  let callable (p : Rule Unit) : Rule (Option Shape) := do
    p
    pure (some Shape.call)
  if k == "TRUE" || k == "FALSE" || k == "NULL" then pure (some .value)
  else if d == .postgres &&
      ["CURRENT_CATALOG", "CURRENT_USER", "SESSION_USER", "USER"].contains k then
    pure (some .call)
  else if ["CURRENT_TIMESTAMP", "CURRENT_TIME", "CURRENT_DATE", "LOCALTIME",
      "LOCALTIMESTAMP"].contains k then callable do
    if ← sign "(" then arguments d below
  else if k == "CASE" then other (caseExpr below)
  else if k == "CONVERT" then other (convertExpr d below)
  else if ["CAST", "TRY_CAST", "SAFE_CAST"].contains k then other (castExpr d below)
  else if k == "EXISTS" then other (existsExpr below)
  else if k == "EXTRACT" then other (extractExpr d below)
  else if k == "CEIL" || k == "FLOOR" then other (roundExpr d below)
  else if k == "POSITION" then do
    if ← atSign "(" then other (positionExpr d below) else pure none
  else if k == "SUBSTR" || k == "SUBSTRING" then other (substringExpr below)
  else if k == "OVERLAY" then other (overlayExpr below)
  else if k == "TRIM" then other (trimExpr below)
  else if k == "INTERVAL" then other (intervalExpr d below operand)
  else if k == "ARRAY" then do
    if ← sign "[" then other (arrayItems below)
    else if ← atSign "(" then callable (inParens below.query)
    else pure none
  else if k == "NOT" then other (notExpr d below)
  else if k == "MATCH" && d == .mysql then other matchExpr
  else if d == .postgres && DataType.geometricNames.contains k then other value
  else pure none

/-- Words that are no names where they do not begin their own expression. -/
def isReserved (d : Dialect) (k : String) : Bool :=
  ["EXISTS", "STRUCT", "TRIM"].contains k || (d == .mysql && k == "INTERVAL")

/-- A word that begins no expression of its own: a call, a text with its character set, or a name.
The word has been read. -/
def plainWord (d : Dialect) (below : Rules) (w : String) : Rule Shape := do
  match ← peek with
  | some (.sign "(") =>
    call d below
    pure .call
  | some (.text style _) =>
    if w.toList.head? == some '_' && (style == .plain || style == .double || style == .hex) then
      let _ ← next
      pure .other
    else pure .identifier
  | _ => pure .identifier

/-- An operand that begins with a word, which has been read. Where its own expression does not fit,
the word is a name if it may be one. -/
def wordOperand (d : Dialect) (below : Rules) (operand : Rule Shape) (w : String)
    (quote : Option Char) : Rule Shape := fun ts =>
  let k := if quote.isNone then Text.uppercase w else ""
  match keywordOperand d below operand k ts with
  | .ok (some shape, rest) => .ok (shape, rest)
  | .ok (none, rest) => plainWord d below w rest
  | .error stop =>
    if isReserved d k then .error stop
    else match plainWord d below w ts with
      | .ok r => .ok r
      | .error _ => .error stop

def typedText (d : Dialect) (below : Rules) (operand : Rule Shape) : Rule Unit := do
  match ← dataType d with
  | .interval => intervalExpr d below operand
  | .custom => mismatch
  | .binary =>
    if d == .mysql then
      let _ ← below.expr 0
    else valueWith d
  | .known => valueWith d

/-- What stands between braces: a call behind `fn`, or a text behind the mark of a date, a time or
both. The opening brace has been read. -/
def braced (d : Dialect) (below : Rules) : Rule Unit := do
  let found ← attempt do
    expectKeyword "FN"
    objectName
    call d below
  match found with
  | some _ => expectSign "\x7d"
  | none =>
    match ← next with
    | some (.word "d" none) => value
    | some (.word "t" none) => value
    | some (.word "ts" none) => value
    | _ => mismatch
    expectSign "\x7d"

/-- An operand without what may be attached to it. -/
def bareOperand (d : Dialect) (below : Rules) (operand : Rule Shape) : Rule Shape := do
  let unary (b : Binding) : Rule Shape := do
    let _ ← below.expr (b.level d)
    pure Shape.other
  let constant : Rule Shape := do
    valueWith d
    pure Shape.value
  match ← peek with
  | some (.word w quote) =>
    let _ ← next
    wordOperand d below operand w quote
  | some (.number _) => constant
  | some (.text _ _) => constant
  | some (.placeholder _) => constant
  | some (.sign s) =>
    if s == ":" then constant
    else if s == "@" && d == .mysql then constant
    else
      let _ ← next
      if s == "+" || s == "-" then unary .times
      else if s == "!" then if d == .mysql then unary .unaryNot else mismatch
      else if s == "~" then unary .plus
      else if ["!!", "|/", "||/", "@", "#", "##", "@@", "?-", "?|"].contains s then
        if d == .postgres then unary .plus else mismatch
      else if s == "[" then
        arrayItems below
        pure .other
      else if s == "\x7b" then
        braced d below
        pure .other
      else if s == "(" then
        let k := keywordOf (← peek)
        if k == "SELECT" || k == "WITH" then below.query else commas (below.expr 0)
        expectSign ")"
        pure .other
      else mismatch
  | _ => mismatch

/-- An operand. The argument bounds how many units of time may stand in each other. -/
def operand (d : Dialect) (below : Rules) : Nat → Rule Shape
  | 0 => mismatch
  | fuel + 1 => do
    match ← attempt (typedText d below (operand d below fuel)) with
    | some _ => pure .other
    | none =>
      let shape ← bareOperand d below (operand d below fuel)
      if ← keyword "COLLATE" then
        objectName
        pure .other
      else pure shape

/-! ### Attachments -/

/-- What stands in brackets behind an operand: an index, or bounds with colons between. -/
def subscript (below : Rules) : Rule Unit := do
  let lower ← (do
    if ← sign ":" then pure false else
      let _ ← below.expr 0
      pure true : Rule Bool)
  if ← sign "]" then pure () else
  if lower then expectSign ":"
  if ← sign "]" then pure () else
  let _ ← below.expr 0
  if ← sign "]" then pure () else
  expectSign ":"
  if ← sign "]" then pure () else
  let _ ← below.expr 0
  expectSign "]"

/-- The shape of a name with one more part behind a point. -/
def Shape.dot (root part : Shape) : Shape :=
  match root, part with
  | .identifier, .identifier | .identifier, .dotted | .dotted, .identifier | .dotted, .dotted => .dotted
  | .identifier, .call | .dotted, .call => .call
  | _, _ => .access

def memberPart (d : Dialect) (below : Rules) : Rule Shape := do
  match ← peek with
  | some (.text .plain _) =>
    let _ ← next
    pure .identifier
  | _ =>
    let found ← attempt do
      let shape ← below.expr (Binding.period.level d)
      match shape with
      | .other | .star => mismatch
      | shape => pure shape
    match found with
    | some shape => pure shape
    | none =>
      identifier
      pure .identifier

/-- Members and indexes behind an operand. -/
def attached (d : Dialect) (below : Rules) : Nat → Shape → Rule Shape
  | 0, _ => mismatch
  | fuel + 1, shape => do
    if ← atSign "." then
      if isSign "*" (← peekAt 1) then
        if d == .postgres then
          let _ ← next
          let _ ← next
          if shape == .identifier || shape == .dotted then pure .star else mismatch
        else pure shape
      else
        let _ ← next
        let part ← memberPart d below
        attached d below fuel (shape.dot part)
    else if ← sign "[" then
      subscript below
      attached d below fuel .access
    else pure shape

/-! ### Operators -/

def infixSigns (d : Dialect) : List String :=
  comparisonSigns ++ documentSigns ++ ["+", "-", "*", "/", "%", "||", "|", "^", "&"] ++
    match d with
    | .mysql => ["&&"]
    | .postgres => ["<<", ">>", "#", "^@"] ++ geometricSigns

/-- Comparisons that can be made with any or all of a list. -/
def quantifiable : List String := [
  ">", "<", ">=", "<=", "=", "==", "<>", "~", "~*", "!~", "!~*", "~~", "~~*", "!~~", "!~~*"]

/-- The operand behind an operator of a level, or any or all of several. -/
def rightSide (below : Rules) (level : Nat) (canQuantify : Bool) : Rule Unit := do
  match ← oneOf ["ANY", "ALL", "SOME"] with
  | some _ =>
    if ← atSign "(" then
      let k := keywordOf (← peekAt 1)
      if k == "SELECT" || k == "WITH" then
        let _ ← below.expr level
      else
        inParens do
          let _ ← below.expr level
      if canQuantify then pure () else mismatch
    else mismatch
  | none =>
    let _ ← below.expr level

def isTail (below : Rules) : Rule Unit := do
  let negated ← keyword "NOT"
  match ← oneOf ["NULL", "TRUE", "FALSE", "UNKNOWN"] with
  | some _ => pure ()
  | none =>
    if ← keywords ["DISTINCT", "FROM"] then
      let _ ← below.expr 0
    else
      let _ ← oneOf ["NFC", "NFD", "NFKC", "NFKD"]
      let _ := negated
      expectKeyword "NORMALIZED"

/-- Behind `IN`: a query, or one or more expressions. -/
def inTail (below : Rules) : Rule Unit := do
  if ← keyword "UNNEST" then
    inParens do
      let _ ← below.expr 0
  else
    inParens do
      match ← attempt below.query with
      | some _ => pure ()
      | none => commas (below.expr 0)

def betweenTail (d : Dialect) (below : Rules) : Rule Unit := do
  let _ ← below.expr (Binding.between.level d)
  expectKeyword "AND"
  let _ ← below.expr (Binding.between.level d)

/-- A pattern, with the character that escapes its wildcards. -/
def patternTail (d : Dialect) (below : Rules) : Rule Unit := do
  let _ ← below.expr (Binding.like.level d)
  if ← keyword "ESCAPE" then value

/-- An operator that is a word, `NOT` in front of it or not. -/
def wordTail (d : Dialect) (below : Rules) : Rule Unit := do
  let negated ← keyword "NOT"
  match ← oneOf ["REGEXP", "RLIKE"] with
  | some _ =>
    let _ ← below.expr (Binding.like.level d)
  | none =>
    let null ← keyword "NULL"
    if negated && null then pure ()
    else if ← keyword "IN" then inTail below
    else if ← keyword "BETWEEN" then betweenTail d below
    else if ← keyword "LIKE" then
      let _ ← keyword "ANY"
      patternTail d below
    else if ← keyword "ILIKE" then
      let _ ← keyword "ANY"
      patternTail d below
    else if ← keywords ["SIMILAR", "TO"] then patternTail d below
    else mismatch

/-- The keys behind a colon that lead into a document. -/
def documentPath (below : Rules) : Rule Unit := do
  let key : Rule Unit := do
    match ← next with
    | some (.word _ none) => pure ()
    | some (.word _ (some '"')) => pure ()
    | some (.text .double _) => pure ()
    | _ => mismatch
  expectSign ":"
  key
  repeated do
    if ← sign "." then
      key
      pure true
    else if ← sign "[" then
      let _ ← below.expr 0
      expectSign "]"
      pure true
    else pure false

/-- Names of an operator in parentheses, with points between. -/
def operatorName : Rule Unit :=
  inParens do
    let _ ← next
    repeated do
      if ← sign "." then
        let _ ← next
        pure true
      else pure false

/-- The operator that comes next, of a level, and what stands behind it. -/
def infixTail (d : Dialect) (below : Rules) (level : Nat) : Rule Unit := do
  match ← peek with
  | some (.sign s) =>
    if s == "::" then
      let _ ← next
      let _ ← dataType d
    else if s == "!" then
      let _ ← next
      if d == .postgres then pure () else mismatch
    else if s == ":" then documentPath below
    else
      let _ ← next
      if (infixSigns d).contains s then rightSide below level (quantifiable.contains s)
      else mismatch
  | some (.custom _) =>
    let _ ← next
    rightSide below level false
  | some (.word w _) =>
    let k := Text.uppercase w
    if ["AND", "OR", "XOR", "OVERLAPS"].contains k then
      let _ ← next
      rightSide below level false
    else if k == "DIV" && d == .mysql then
      let _ ← next
      let _ ← below.expr 0
    else if k == "OPERATOR" && d == .postgres then
      let _ ← next
      operatorName
      rightSide below level false
    else if k == "IS" then
      let _ ← next
      isTail below
    else if k == "NOTNULL" && d == .postgres then
      let _ ← next
      pure ()
    else if k == "AT" then
      let _ ← next
      expectKeyword "TIME"
      expectKeyword "ZONE"
      let _ ← below.expr level
    else if k == "MEMBER" then
      let _ ← next
      expectKeyword "OF"
      inParens do
        let _ ← below.expr 0
    else wordTail d below
  | _ => mismatch

/-- Operators that bind tighter than `least`, one behind the other. -/
def chain (d : Dialect) (below : Rules) (least : Nat) : Nat → Shape → Rule Shape
  | 0, _ => mismatch
  | fuel + 1, shape => do
    let level ← nextLevel d
    if level ≤ least then pure shape
    else if ← atSign "." then pure shape
    else
      infixTail d below level
      chain d below least fuel .other

/-- An expression of operators that bind tighter than `least`. -/
def expression (d : Dialect) (below : Rules) (least : Nat) : Rule Shape := do
  let ts ← get
  let fuel := ts.length + 1
  let shape ← operand d below fuel
  let shape ← attached d below fuel shape
  if ← keyword "COLLATE" then objectName
  chain d below least fuel shape

end QueryDesk.Sql
