import Opsia.Json.Value

/-!
# JSON text

`stringify` writes a value (`undefined` has no text), `parse` reads one.  Reading is by recursion on a bound that the
length of the text always meets; lone surrogate escapes, which no string here can hold, are refused.  The main result
is the round trip `parse_stringify`: parsing the text of a value gives its `detach`.  In particular values with the same
text agree after `detach` (`stringify_injective`).
-/

namespace Opsia.Json

/-! ### Strings -/

/-- The escape of a character inside a JSON string. -/
def escapeChar (c : Char) : List Char :=
  match c with
  | '"' => ['\\', '"']
  | '\\' => ['\\', '\\']
  | '\n' => ['\\', 'n']
  | '\r' => ['\\', 'r']
  | '\t' => ['\\', 't']
  | '\x08' => ['\\', 'b']
  | '\x0c' => ['\\', 'f']
  | c =>
    if c.toNat < 32 then
      ['\\', 'u', '0', '0', Nat.digitChar (c.toNat / 16), Nat.digitChar (c.toNat % 16)]
    else [c]

/-- `JSON.stringify` of a string. -/
def quoted (s : List Char) : List Char := '"' :: (s.flatMap escapeChar ++ ['"'])

/-- The value of a hexadecimal digit. -/
def hexVal? (c : Char) : Option Nat :=
  let n := c.toNat
  if 48 ≤ n ∧ n ≤ 57 then some (n - 48)
  else if 97 ≤ n ∧ n ≤ 102 then some (n - 87)
  else if 65 ≤ n ∧ n ≤ 70 then some (n - 55)
  else none

/-- The code unit of a four-digit escape. -/
def codeUnit? (a b c d : Char) : Option Nat := do
  let a ← hexVal? a
  let b ← hexVal? b
  let c ← hexVal? c
  let d ← hexVal? d
  some (a * 4096 + b * 256 + c * 16 + d)

/-- The character of a one-letter escape. -/
def unescape? (c : Char) : Option Char :=
  match c with
  | '"' => some '"'
  | '\\' => some '\\'
  | '/' => some '/'
  | 'n' => some '\n'
  | 'r' => some '\r'
  | 't' => some '\t'
  | 'b' => some '\x08'
  | 'f' => some '\x0c'
  | _ => none

/-- The character of a surrogate pair. -/
def surrogatePair? (hi lo : Nat) : Option Char :=
  if 55296 ≤ hi ∧ hi ≤ 56319 ∧ 56320 ≤ lo ∧ lo ≤ 57343 then
    some (Char.ofNat (65536 + (hi - 55296) * 1024 + (lo - 56320)))
  else none

/-- The rest of a string after its opening quote, and what follows its closing quote. -/
def readString : List Char → Option (List Char × List Char)
  | '"' :: rest => some ([], rest)
  | '\\' :: 'u' :: a :: b :: c :: d :: rest =>
    match codeUnit? a b c d with
    | none => none
    | some n =>
      if n < 55296 ∨ 57343 < n then (readString rest).map fun (s, rest) => (Char.ofNat n :: s, rest)
      else
        match rest with
        | '\\' :: 'u' :: a :: b :: c :: d :: rest =>
          match (codeUnit? a b c d).bind (surrogatePair? n) with
          | some c => (readString rest).map fun (s, rest) => (c :: s, rest)
          | none => none
        | _ => none
  | '\\' :: c :: rest =>
    match unescape? c with
    | some c => (readString rest).map fun (s, rest) => (c :: s, rest)
    | none => none
  | c :: rest => if c.toNat < 32 then none else (readString rest).map fun (s, rest) => (c :: s, rest)
  | [] => none

private theorem codeUnit?_control {n : Nat} (h : n < 32) :
    codeUnit? '0' '0' (Nat.digitChar (n / 16)) (Nat.digitChar (n % 16)) = some n := by
  revert h
  revert n
  decide

private theorem readString_plain {c : Char} (h1 : c ≠ '"') (h2 : c ≠ '\\') (h3 : 32 ≤ c.toNat) (rest : List Char) :
    readString (c :: rest) = (readString rest).map fun p => (c :: p.1, p.2) := by
  rw [readString]
  · simp [Nat.not_lt.2 h3]
  · rintro rfl; exact absurd rfl h1
  · rintro _ _ _ _ _ rfl; exact absurd rfl h2
  · rintro _ _ rfl; exact absurd rfl h2

private theorem readString_escape (c : Char) (rest : List Char) :
    readString (escapeChar c ++ rest) = (readString rest).map fun p => (c :: p.1, p.2) := by
  by_cases h1 : c = '"'
  · subst h1; simp [escapeChar, readString, unescape?]
  by_cases h2 : c = '\\'
  · subst h2; simp [escapeChar, readString, unescape?]
  by_cases h3 : c = '\n'
  · subst h3; simp [escapeChar, readString, unescape?]
  by_cases h4 : c = '\r'
  · subst h4; simp [escapeChar, readString, unescape?]
  by_cases h5 : c = '\t'
  · subst h5; simp [escapeChar, readString, unescape?]
  by_cases h6 : c = '\x08'
  · subst h6; simp [escapeChar, readString, unescape?]
  by_cases h7 : c = '\x0c'
  · subst h7; simp [escapeChar, readString, unescape?]
  by_cases h : c.toNat < 32
  · have he : escapeChar c = ['\\', 'u', '0', '0', Nat.digitChar (c.toNat / 16), Nat.digitChar (c.toNat % 16)] := by
      simp [escapeChar, h]
    have hlt : c.toNat < 55296 := by omega
    simp only [he, List.cons_append, List.nil_append, readString, codeUnit?_control h, hlt, true_or, if_true,
      Char.ofNat_toNat]
  · have he : escapeChar c = [c] := by simp [escapeChar, h]
    rw [he]
    exact readString_plain h1 h2 (by omega) rest

theorem readString_quoted (s rest : List Char) :
    readString (s.flatMap escapeChar ++ '"' :: rest) = some (s, rest) := by
  induction s with
  | nil => simp [readString]
  | cons c cs ih => rw [List.flatMap_cons, List.append_assoc, readString_escape, ih]; rfl

/-! ### Writing -/

/-- `parts.join(",")`. -/
def joinComma : List (List Char) → List Char
  | [] => []
  | [t] => t
  | t :: ts => t ++ ',' :: joinComma ts

/-- A field of an object in JSON text. -/
def member (key : String) (text : List Char) : List Char := quoted key.toList ++ ':' :: text

mutual

/-- The text of a plain value. -/
def write : JsValue → List Char
  | .undefined => []
  | .null => ['n', 'u', 'l', 'l']
  | .bool true => ['t', 'r', 'u', 'e']
  | .bool false => ['f', 'a', 'l', 's', 'e']
  | .num x => x.render
  | .str s => quoted s.toList
  | .arr items => '[' :: (joinComma (writeItems items) ++ [']'])
  | .obj fields => '{' :: (joinComma (writeFields fields) ++ ['}'])

def writeItems : List JsValue → List (List Char)
  | [] => []
  | v :: vs => write v :: writeItems vs

def writeFields : List (String × JsValue) → List (List Char)
  | [] => []
  | (k, v) :: fs => member k (write v) :: writeFields fs

end

theorem write_arr (items : List JsValue) : write (.arr items) = '[' :: (joinComma (items.map write) ++ [']']) := by
  have h : ∀ vs, writeItems vs = vs.map write := by
    intro vs
    induction vs with
    | nil => rfl
    | cons v vs ih => rw [writeItems, ih]; rfl
  rw [write, h]

theorem write_obj (fields : Fields JsValue) :
    write (.obj fields) = '{' :: (joinComma (fields.map fun f => member f.1 (write f.2)) ++ ['}']) := by
  have h : ∀ fs, writeFields fs = fs.map fun f => member f.1 (write f.2) := by
    intro fs
    induction fs with
    | nil => rfl
    | cons f fs ih =>
      obtain ⟨k, v⟩ := f
      rw [writeFields, ih]; rfl
  rw [write, h]

/-- `JSON.stringify`: the text of what JSON shows of the value. -/
def stringify (v : JsValue) : Option String := if v.isUndefined then none else some (String.ofList (write v.detach))

/-! ### Reading -/

def isSpace (c : Char) : Bool := c == ' ' || c == '\t' || c == '\n' || c == '\r'

def skipSpace : List Char → List Char
  | c :: cs => if isSpace c then skipSpace cs else c :: cs
  | [] => []

mutual

/-- A value at the start of the text, and what follows it. -/
def readValue : Nat → List Char → Option (JsValue × List Char)
  | 0, _ => none
  | fuel + 1, cs =>
    match skipSpace cs with
    | '"' :: cs => (readString cs).map fun (s, rest) => (.str (String.ofList s), rest)
    | '[' :: cs =>
      match skipSpace cs with
      | ']' :: rest => some (.arr [], rest)
      | cs => (readItems fuel cs).map fun (vs, rest) => (.arr vs, rest)
    | '{' :: cs =>
      match skipSpace cs with
      | '}' :: rest => some (.obj [], rest)
      | cs => (readMembers fuel [] cs).map fun (fs, rest) => (.obj fs, rest)
    | 'n' :: 'u' :: 'l' :: 'l' :: rest => some (.null, rest)
    | 't' :: 'r' :: 'u' :: 'e' :: rest => some (.bool true, rest)
    | 'f' :: 'a' :: 'l' :: 's' :: 'e' :: rest => some (.bool false, rest)
    | cs => (readNumber cs).map fun (x, rest) => (.num x, rest)

/-- The elements of an array up to its closing bracket. -/
def readItems : Nat → List Char → Option (List JsValue × List Char)
  | 0, _ => none
  | fuel + 1, cs =>
    match readValue fuel cs with
    | none => none
    | some (v, rest) =>
      match skipSpace rest with
      | ',' :: rest => (readItems fuel rest).map fun (vs, rest) => (v :: vs, rest)
      | ']' :: rest => some ([v], rest)
      | _ => none

/-- The fields of an object up to its closing brace; a repeated key overwrites. -/
def readMembers : Nat → Fields JsValue → List Char → Option (Fields JsValue × List Char)
  | 0, _, _ => none
  | fuel + 1, fs, cs =>
    match skipSpace cs with
    | '"' :: cs =>
      match readString cs with
      | none => none
      | some (k, rest) =>
        match skipSpace rest with
        | ':' :: rest =>
          match readValue fuel rest with
          | none => none
          | some (v, rest) =>
            match skipSpace rest with
            | ',' :: rest => readMembers fuel (fs.assign (String.ofList k) v) rest
            | '}' :: rest => some (fs.assign (String.ofList k) v, rest)
            | _ => none
        | _ => none
    | _ => none

end

/-- `JSON.parse`; `none` is the syntax error. -/
def parse (text : String) : Option JsValue :=
  match readValue (text.toList.length + 1) text.toList with
  | some (v, rest) => if skipSpace rest = [] then some v else none
  | none => none

/-! ### Reading inverts writing -/

private theorem joinComma_cons {t : List Char} {ts : List (List Char)} (h : ts ≠ []) :
    joinComma (t :: ts) = t ++ ',' :: joinComma ts := by
  cases ts with
  | nil => exact absurd rfl h
  | cons u ts => rfl

/-- A character that begins a value in written text. -/
private def Starts (c : Char) : Prop := isSpace c = false ∧ c ≠ ']' ∧ c ≠ '}'

private instance : DecidablePred Starts := fun c => inferInstanceAs (Decidable (isSpace c = false ∧ c ≠ ']' ∧ c ≠ '}'))

private theorem skipSpace_of_starts {c : Char} (h : isSpace c = false) (cs : List Char) :
    skipSpace (c :: cs) = c :: cs := by simp [skipSpace, h]

private theorem numberEnds_cons {c : Char} (h : digitVal? c = none ∧ c ≠ '.' ∧ c ≠ 'e' ∧ c ≠ 'E') (cs : List Char) :
    NumberEnds (c :: cs) := by
  intro d hd
  cases hd
  exact h

private theorem render_head {x : JsNumber} (h : x.throughText = some x) :
    ∃ c cs, x.render = c :: cs ∧ (c = '-' ∨ (digitVal? c).isSome) := by
  have hr := readNumber_render h (show NumberEnds [] by simp [NumberEnds])
  obtain ⟨c, cs, hc, hd⟩ := readNumber_head hr
  exact ⟨c, cs, by simpa using hc, hd⟩

private theorem numberHead_ne {c d : Char} (h : c = '-' ∨ (digitVal? c).isSome) (h1 : d ≠ '-')
    (h2 : digitVal? d = none) : c ≠ d := by
  rintro rfl
  rcases h with h | h
  · exact h1 h
  · rw [h2] at h; cases h

private theorem write_starts (v : JsValue) (h : v.Plain) : ∃ c cs, write v = c :: cs ∧ Starts c := by
  cases v with
  | undefined => exact absurd h (by simp [JsValue.Plain])
  | null => exact ⟨_, _, rfl, by decide⟩
  | bool b => cases b <;> exact ⟨_, _, rfl, by decide⟩
  | num x =>
    obtain ⟨c, cs, hc, hd⟩ := render_head h
    refine ⟨c, cs, hc, ?_, numberHead_ne hd (by decide) (by decide), numberHead_ne hd (by decide) (by decide)⟩
    simp only [isSpace, Bool.or_eq_false_iff, beq_eq_false_iff_ne]
    exact ⟨⟨⟨numberHead_ne hd (by decide) (by decide), numberHead_ne hd (by decide) (by decide)⟩,
      numberHead_ne hd (by decide) (by decide)⟩, numberHead_ne hd (by decide) (by decide)⟩
  | str s => exact ⟨_, _, rfl, by decide⟩
  | arr items => exact ⟨_, _, rfl, by decide⟩
  | obj fields => exact ⟨_, _, rfl, by decide⟩

/-- What the round trip says about one value. -/
private def Reads (v : JsValue) : Prop :=
  ∀ fuel rest, (write v).length < fuel → NumberEnds rest → readValue fuel (write v ++ rest) = some (v, rest)

private theorem readItems_write (vs : List JsValue) (hne : vs ≠ []) (h : ∀ v ∈ vs, Reads v) (fuel : Nat)
    (rest : List Char) (hf : (joinComma (vs.map write)).length + 1 < fuel) :
    readItems fuel (joinComma (vs.map write) ++ ']' :: rest) = some (vs, rest) := by
  induction vs generalizing fuel with
  | nil => exact absurd rfl hne
  | cons v vs ih =>
    obtain ⟨fuel, rfl⟩ : ∃ f, fuel = f + 1 := ⟨fuel - 1, by omega⟩
    have hv := h v (by simp)
    cases vs with
    | nil =>
      simp only [List.map_cons, List.map_nil, joinComma] at hf ⊢
      rw [readItems, hv fuel _ (by omega) (numberEnds_cons (by decide) _)]
      simp only [skipSpace_of_starts (show isSpace ']' = false by decide)]
    | cons w ws =>
      rw [List.map_cons, joinComma_cons (by simp)] at hf ⊢
      simp only [List.length_append, List.length_cons] at hf
      have ih := ih (by simp) (fun v hv => h v (List.mem_cons_of_mem _ hv)) fuel (by omega)
      rw [readItems, List.append_assoc, List.cons_append, hv fuel _ (by omega) (numberEnds_cons (by decide) _)]
      simp only [skipSpace_of_starts (show isSpace ',' = false by decide), ih]
      rfl

private theorem readMembers_write (gs fs : Fields JsValue) (hne : gs ≠ []) (ho : Fields.Ordered (fs ++ gs))
    (h : ∀ f ∈ gs, Reads f.2) (fuel : Nat) (rest : List Char)
    (hf : (joinComma (gs.map fun f => member f.1 (write f.2))).length + 1 < fuel) :
    readMembers fuel fs (joinComma (gs.map fun f => member f.1 (write f.2)) ++ '}' :: rest) = some (fs ++ gs, rest) := by
  induction gs generalizing fs fuel with
  | nil => exact absurd rfl hne
  | cons g gs ih =>
    obtain ⟨k, v⟩ := g
    obtain ⟨fuel, rfl⟩ : ∃ f, fuel = f + 1 := ⟨fuel - 1, by omega⟩
    have hv : Reads v := h (k, v) (by simp)
    have hassign : Fields.assign fs k v = fs ++ [(k, v)] := Fields.assign_append ho
    have hmem : ∀ tail, member k (write v) ++ tail =
        '"' :: (k.toList.flatMap escapeChar ++ '"' :: ':' :: (write v ++ tail)) := by
      intro tail; simp [member, quoted]
    have hread : ∀ tail, readString (k.toList.flatMap escapeChar ++ '"' :: ':' :: (write v ++ tail)) =
        some (k.toList, ':' :: (write v ++ tail)) := fun tail => readString_quoted _ _
    have hlen : (write v).length < (member k (write v)).length := by simp [member, quoted]; omega
    cases gs with
    | nil =>
      simp only [List.map_cons, List.map_nil, joinComma] at hf ⊢
      rw [hmem, readMembers]
      simp only [skipSpace_of_starts (show isSpace '"' = false by decide), hread,
        skipSpace_of_starts (show isSpace ':' = false by decide)]
      rw [hv fuel _ (by omega) (numberEnds_cons (by decide) _)]
      simp only [skipSpace_of_starts (show isSpace '}' = false by decide), String.ofList_toList, hassign]
    | cons g' gs =>
      rw [List.map_cons, joinComma_cons (by simp)] at hf ⊢
      simp only [List.length_append, List.length_cons] at hf
      have ih := ih (fs ++ [(k, v)]) (by simp) (by simpa using ho) (fun f hf => h f (List.mem_cons_of_mem _ hf)) fuel
        (by omega)
      rw [List.append_assoc, List.cons_append, hmem, readMembers]
      simp only [skipSpace_of_starts (show isSpace '"' = false by decide), hread,
        skipSpace_of_starts (show isSpace ':' = false by decide)]
      rw [hv fuel _ (by omega) (numberEnds_cons (by decide) _)]
      simp only [skipSpace_of_starts (show isSpace ',' = false by decide), String.ofList_toList, hassign, ih]
      simp

private theorem readValue_write (v : JsValue) (hp : v.Plain) (hw : v.WellFormed) : Reads v := by
  induction v using JsValue.induct with
  | undefined => exact absurd hp (by simp [JsValue.Plain])
  | null =>
    intro fuel rest hf _
    obtain ⟨fuel, rfl⟩ : ∃ f, fuel = f + 1 := ⟨fuel - 1, by omega⟩
    simp only [write, readValue, List.cons_append, List.nil_append, skipSpace_of_starts (show isSpace 'n' = false by decide)]
  | bool b =>
    intro fuel rest hf _
    obtain ⟨fuel, rfl⟩ : ∃ f, fuel = f + 1 := ⟨fuel - 1, by omega⟩
    cases b
    · simp only [write, readValue, List.cons_append, List.nil_append,
        skipSpace_of_starts (show isSpace 'f' = false by decide)]
    · simp only [write, readValue, List.cons_append, List.nil_append,
        skipSpace_of_starts (show isSpace 't' = false by decide)]
  | num x =>
    intro fuel rest hf hr
    obtain ⟨fuel, rfl⟩ : ∃ f, fuel = f + 1 := ⟨fuel - 1, by omega⟩
    obtain ⟨c, cs, hc, hstart⟩ := write_starts (.num x) hp
    obtain ⟨c', cs', hc', hd⟩ := render_head hp
    have hread := readNumber_render hp hr
    have hcc : c' = c := by
      have := hc'.symm.trans hc
      exact (List.cons.inj this).1
    subst hcc
    have hws : skipSpace (write (.num x) ++ rest) = write (.num x) ++ rest := by
      rw [hc, List.cons_append, skipSpace_of_starts hstart.1]
    rw [readValue, hws, hc, List.cons_append]
    have hne : ∀ {d : Char}, d ≠ '-' → digitVal? d = none → c' ≠ d := fun h1 h2 => numberHead_ne hd h1 h2
    split
    · rename_i he; exact absurd (List.cons.inj he).1 (hne (by decide) (by decide))
    · rename_i he; exact absurd (List.cons.inj he).1 (hne (by decide) (by decide))
    · rename_i he; exact absurd (List.cons.inj he).1 (hne (by decide) (by decide))
    · rename_i he; exact absurd (List.cons.inj he).1 (hne (by decide) (by decide))
    · rename_i he; exact absurd (List.cons.inj he).1 (hne (by decide) (by decide))
    · rename_i he; exact absurd (List.cons.inj he).1 (hne (by decide) (by decide))
    · rw [← List.cons_append, ← hc]
      show (readNumber (x.render ++ rest)).map _ = _
      rw [hread]
      rfl
  | str s =>
    intro fuel rest hf _
    obtain ⟨fuel, rfl⟩ : ∃ f, fuel = f + 1 := ⟨fuel - 1, by omega⟩
    simp only [write, quoted, readValue, List.cons_append, List.append_assoc, List.nil_append,
      skipSpace_of_starts (show isSpace '"' = false by decide), readString_quoted]
    simp
  | arr items ih =>
    intro fuel rest hf _
    obtain ⟨fuel, rfl⟩ : ∃ f, fuel = f + 1 := ⟨fuel - 1, by omega⟩
    simp only [JsValue.plain_arr, JsValue.wellFormed_arr] at hp hw
    cases items with
    | nil =>
      simp only [write, writeItems, joinComma, readValue, List.cons_append, List.nil_append,
        skipSpace_of_starts (show isSpace '[' = false by decide),
        skipSpace_of_starts (show isSpace ']' = false by decide)]
    | cons v vs =>
      obtain ⟨c, cs, hc, hstart⟩ := write_starts v (hp v (by simp))
      obtain ⟨ds, hds⟩ : ∃ ds, joinComma ((v :: vs).map write) = c :: ds := by
        cases vs with
        | nil => exact ⟨cs, by simp [joinComma, hc]⟩
        | cons w ws => exact ⟨_, by rw [List.map_cons, joinComma_cons (by simp), hc]; rfl⟩
      rw [write_arr] at hf
      simp only [List.length_cons, List.length_append, List.length_nil] at hf
      have hitems := readItems_write (v :: vs) (by simp) (fun v hv => ih v hv (hp v hv) (hw.2 v hv)) fuel rest (by omega)
      rw [hds, List.cons_append] at hitems
      rw [write_arr, readValue, hds]
      simp only [List.cons_append, List.append_assoc, List.nil_append,
        skipSpace_of_starts (show isSpace '[' = false by decide), skipSpace_of_starts hstart.1]
      split
      · rename_i he; exact absurd (List.cons.inj he).1 hstart.2.1
      · rw [hitems]; rfl
  | obj fields ih =>
    intro fuel rest hf _
    obtain ⟨fuel, rfl⟩ : ∃ f, fuel = f + 1 := ⟨fuel - 1, by omega⟩
    simp only [JsValue.plain_obj, JsValue.wellFormed_obj] at hp hw
    cases fields with
    | nil =>
      simp only [write, writeFields, joinComma, readValue, List.cons_append, List.nil_append,
        skipSpace_of_starts (show isSpace '{' = false by decide),
        skipSpace_of_starts (show isSpace '}' = false by decide)]
    | cons f fs =>
      obtain ⟨ds, hds⟩ : ∃ ds, joinComma ((f :: fs).map fun f => member f.1 (write f.2)) = '"' :: ds := by
        cases fs with
        | nil => exact ⟨_, rfl⟩
        | cons g gs => exact ⟨_, by rw [List.map_cons, joinComma_cons (by simp)]; rfl⟩
      rw [write_obj] at hf
      simp only [List.length_cons, List.length_append, List.length_nil] at hf
      have hmembers := readMembers_write (f :: fs) [] (by simp) hw.1
        (fun f hf => ih f hf (hp f hf) (hw.2 f hf)) fuel rest (by omega)
      rw [hds, List.cons_append] at hmembers
      rw [write_obj, readValue, hds]
      simp only [List.cons_append, List.append_assoc, List.nil_append,
        skipSpace_of_starts (show isSpace '{' = false by decide),
        skipSpace_of_starts (show isSpace '"' = false by decide)]
      split
      · rename_i he; exact absurd (List.cons.inj he).1 (by decide)
      · rw [hmembers]; rfl

/-- Parsing the text of a plain value gives the value back. -/
theorem parse_write {v : JsValue} (hp : v.Plain) (hw : v.WellFormed) : parse (String.ofList (write v)) = some v := by
  have h := readValue_write v hp hw ((write v).length + 1) [] (by omega) (by simp [NumberEnds])
  rw [List.append_nil] at h
  simp [parse, h, skipSpace]

theorem write_injective {v w : JsValue} (hv : v.Plain) (hv' : v.WellFormed) (hw : w.Plain) (hw' : w.WellFormed)
    (h : write v = write w) : v = w := by
  have h1 := parse_write hv hv'
  rw [h, parse_write hw hw'] at h1
  exact (Option.some.inj h1).symm

/-- Parsing the text of a value gives what JSON shows of it. -/
theorem parse_stringify {v : JsValue} (hw : v.WellFormed) {text : String} (h : stringify v = some text) :
    parse text = some v.detach := by
  unfold stringify at h
  split at h
  · cases h
  · rename_i hu
    cases h
    exact parse_write (JsValue.plain_detach v (by simpa using hu)) (JsValue.wellFormed_detach v hw)

/-- The bytes of a text are those of its characters. -/
theorem utf8ByteSize_ofList (cs : List Char) : (String.ofList cs).utf8ByteSize = (cs.map Char.utf8Size).sum := by
  induction cs with
  | nil => rfl
  | cons c cs ih =>
    rw [String.ofList_cons, String.utf8ByteSize_append, String.utf8ByteSize_singleton, ih, List.map_cons, List.sum_cons]

end Opsia.Json
