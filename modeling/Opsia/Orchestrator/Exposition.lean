import Opsia.Json.Literal

/-!
# Metrics as text

`parsePrometheus` reads the samples of a metrics page line by line: a line that its pattern does not match, or whose
value is not a finite number, is passed over.  `renderSamples` writes samples in the text exposition format, with the
backslashes, quotes and line feeds of label values escaped.
-/

namespace Opsia

open Json

namespace Exposition

/-- `\s`, which is also what `trim` takes off. -/
def isWhiteSpace (c : Char) : Bool :=
  let n := c.toNat
  decide ((9 ≤ n ∧ n ≤ 13) ∨ n = 32 ∨ n = 160 ∨ n = 5760 ∨ (8192 ≤ n ∧ n ≤ 8202) ∨ n = 8232 ∨ n = 8233 ∨ n = 8239 ∨
    n = 8287 ∨ n = 12288 ∨ n = 65279)

/-- What `.` does not match. -/
def isLineTerminator (c : Char) : Bool := decide (c = '\n' ∨ c = '\r' ∨ c.toNat = 8232 ∨ c.toNat = 8233)

def isLetter (c : Char) : Bool := decide (('a' ≤ c ∧ c ≤ 'z') ∨ ('A' ≤ c ∧ c ≤ 'Z'))

def labelStart (c : Char) : Bool := isLetter c || c == '_'

def labelChar (c : Char) : Bool := labelStart c || c.isDigit

def nameStart (c : Char) : Bool := labelStart c || c == ':'

def nameChar (c : Char) : Bool := nameStart c || c.isDigit

/-- `split(/\r?\n/)` -/
def splitLines : List Char → List (List Char)
  | [] => [[]]
  | '\r' :: '\n' :: cs => [] :: splitLines cs
  | '\n' :: cs => [] :: splitLines cs
  | c :: cs =>
    match splitLines cs with
    | [] => [[c]]
    | line :: lines => (c :: line) :: lines

def trim (cs : List Char) : List Char := ((cs.dropWhile isWhiteSpace).reverse.dropWhile isWhiteSpace).reverse

/-! ### Labels -/

/-- `replaceAll` of a pair of characters by one. -/
def replacePair (first second replacement : Char) : List Char → List Char
  | c :: d :: cs =>
    if c = first ∧ d = second then replacement :: replacePair first second replacement cs
    else c :: replacePair first second replacement (d :: cs)
  | cs => cs

def unescapeLabel (value : List Char) : List Char :=
  replacePair '\\' '\\' '\\' (replacePair '\\' '"' '"' (replacePair '\\' 'n' '\n' value))

/-- `((?:\\.|[^"\\])*)"`: the text before the closing quote, and what follows it. -/
def scanLabelValue : List Char → Option (List Char × List Char)
  | [] => none
  | '"' :: cs => some ([], cs)
  | ['\\'] => none
  | '\\' :: c :: cs =>
    if isLineTerminator c then none else (scanLabelValue cs).map fun (value, rest) => ('\\' :: c :: value, rest)
  | c :: cs => (scanLabelValue cs).map fun (value, rest) => (c :: value, rest)

/-- `/([a-zA-Z_][a-zA-Z\d_]*)="((?:\\.|[^"\\])*)"(?:,|$)/` at the start of the text: the name, the value and what
follows. -/
def matchLabel (cs : List Char) : Option (List Char × List Char × List Char) :=
  if cs.head?.any labelStart then
    match cs.dropWhile labelChar with
    | '=' :: '"' :: rest =>
      match scanLabelValue rest with
      | some (value, ',' :: rest) => some (cs.takeWhile labelChar, value, rest)
      | some (value, []) => some (cs.takeWhile labelChar, value, [])
      | _ => none
    | _ => none
  else none

/-- `labels[name] = value`: a string that is assigned to `__proto__` is lost. -/
def setLabel (labels : Fields String) (name value : String) : Fields String :=
  if name = "__proto__" then labels else labels.assign name value

/-- The loop of `parseLabels`; a match takes characters off the text, so the bound is never reached. -/
def parseLabelsFrom : Nat → List Char → Fields String → Except String (Fields String)
  | _, [], labels => .ok labels
  | 0, _, _ => .error "canary_metrics_labels_invalid"
  | bound + 1, cs, labels =>
    match matchLabel cs with
    | none => .error "canary_metrics_labels_invalid"
    | some (name, value, rest) =>
      parseLabelsFrom bound rest (setLabel labels (String.ofList name) (String.ofList (unescapeLabel value)))

def parseLabels (input : List Char) : Except String (Fields String) := parseLabelsFrom input.length input []

/-! ### Lines -/

/-- `\s+([^\s]+)(?:\s+\d+)?$`: the value. -/
def matchValue (cs : List Char) : Option (List Char) :=
  let rest := cs.dropWhile isWhiteSpace
  let value := rest.takeWhile fun c => !isWhiteSpace c
  let time := rest.dropWhile fun c => !isWhiteSpace c
  if cs.head?.any isWhiteSpace = false ∨ value = [] then none
  else if time = [] then some value
  else
    let digits := time.dropWhile isWhiteSpace
    if digits ≠ [] ∧ digits.all Char.isDigit then some value else none

structure LineMatch where
  name : List Char
  labels : Option (List Char)
  value : List Char

/-- `/^([a-zA-Z_:][a-zA-Z\d_:]*)(?:\{([^}]*)\})?\s+([^\s]+)(?:\s+\d+)?$/` -/
def matchLine (line : List Char) : Option LineMatch :=
  if line.head?.any nameStart then
    let name := line.takeWhile nameChar
    match line.dropWhile nameChar with
    | '{' :: rest =>
      match rest.dropWhile fun c => c != '}' with
      | '}' :: tail => (matchValue tail).map fun value => ⟨name, some (rest.takeWhile fun c => c != '}'), value⟩
      | _ => none
    | rest => (matchValue rest).map fun value => ⟨name, none, value⟩
  else none

structure ParsedSample where
  name : String
  labels : Fields String
  value : JsNumber
deriving DecidableEq

/-- The body of the loop of `parsePrometheus`: the sample of a line, if it has one. -/
def parseLine (rawLine : List Char) : Except String (Option ParsedSample) :=
  let line := trim rawLine
  if line = [] ∨ line.head? = some '#' then .ok none
  else
    match matchLine line with
    | none => .ok none
    | some found =>
      let value := JsNumber.ofText found.value
      if value.isFinite then
        match found.labels with
        | none | some [] => .ok (some { name := String.ofList found.name, labels := [], value })
        | some labels =>
          match parseLabels labels with
          | .error message => .error message
          | .ok labels => .ok (some { name := String.ofList found.name, labels, value })
      else .ok none

def parseLines : List (List Char) → Except String (List ParsedSample)
  | [] => .ok []
  | line :: lines =>
    match parseLine line with
    | .error message => .error message
    | .ok sample =>
      match parseLines lines with
      | .error message => .error message
      | .ok samples => .ok (sample.toList ++ samples)

def parsePrometheus (body : List Char) : Except String (List ParsedSample) := parseLines (splitLines body)

/-! ### Writing -/

def escapeLabelChar (c : Char) : List Char :=
  if c = '\\' then ['\\', '\\'] else if c = '"' then ['\\', '"'] else if c = '\n' then ['\\', 'n'] else [c]

def renderLabel (label : String × String) : List Char :=
  label.1.toList ++ '=' :: '"' :: (label.2.toList.flatMap escapeLabelChar ++ ['"'])

def renderSample (sample : ParsedSample) : List Char :=
  sample.name.toList ++
    ((if sample.labels = [] then [] else '{' :: (joinComma (sample.labels.map renderLabel) ++ ['}'])) ++
      ' ' :: sample.value.renderSigned)

def renderSamples (samples : List ParsedSample) : List Char :=
  samples.flatMap fun sample => renderSample sample ++ ['\n']

/-- A metric name, or with the other characters a label name. -/
def IsName (start rest : Char → Bool) (name : String) : Prop :=
  name.toList.head?.any start = true ∧ name.toList.all rest = true

/-- A sample that can be exposed. -/
structure ExposedSample extends ParsedSample where
  name_ok : IsName nameStart nameChar name
  labels_ok : ∀ label ∈ labels, IsName labelStart labelChar label.1
  labels_nodup : labels.keys.Nodup
  value_finite : value.isFinite = true

end Exposition

end Opsia
