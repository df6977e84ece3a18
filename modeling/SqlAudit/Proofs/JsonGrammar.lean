import Mathlib.Data.List.Forall2
import SqlAudit.Proofs.SurfacedPositions
import SqlAudit.Text.Hex

/-! # JSON

The grammar of JSON says which characters spell which value: spaces may stand around every value and
every mark, a string may spell a character in several ways, and a number has a sign, a fraction and
a power of ten if it likes. The reader takes a text apart from left to right. It reads every text of
the grammar as the value that the text spells, so that no text spells two values.
-/

namespace SqlAudit.Json

/-- A JSON value. A number is an integer times a power of ten, and a record keeps the order of its
fields. -/
inductive Value where
  | null
  | boolean (value : Bool)
  | number (significand exponent : Int)
  | text (value : String)
  | list (items : List Value)
  | record (fields : List (String × Value))

/-! ## Spaces -/

def isSpace (c : Char) : Bool :=
  c = ' ' || c = '\t' || c = '\n' || c = '\r'

/-- All of the characters are spaces. -/
def IsGap (cs : List Char) : Prop :=
  ∀ c ∈ cs, isSpace c = true

/-- The characters without the spaces in front. -/
def skip (cs : List Char) : List Char :=
  cs.dropWhile isSpace

theorem isGap_nil : IsGap [] :=
  List.forall_mem_nil _

/-- Skipping stops at the first character that is no blank. -/
theorem skip_append_cons {gap : List Char} (hgap : IsGap gap) {c : Char} (hc : isSpace c = false)
    (cs : List Char) :
    skip (gap ++ c :: cs) = c :: cs := by
  apply Text.dropWhile_append_of_head hgap
  rintro d ⟨⟩
  exact hc

/-! ## Numbers -/

/-- A sign and the factor that it stands for. -/
inductive IsSign : List Char → Int → Prop
  | absent : IsSign [] 1
  | minus : IsSign ['-'] (-1)

/-- Digits in front of the decimal point: no zero stands in front of others. -/
structure IsWhole (cs : List Char) : Prop where
  ne_nil : cs ≠ []
  digits : ∀ c ∈ cs, c.isDigit = true
  leading : cs.head? = some '0' → cs = ['0']

/-- A fraction and its digits. -/
inductive IsFraction : List Char → List Char → Prop
  | absent : IsFraction [] []
  | present {digits : List Char} (hne : digits ≠ []) (hdigits : ∀ c ∈ digits, c.isDigit = true) :
      IsFraction ('.' :: digits) digits

/-- The sign of an exponent. -/
inductive IsPowerSign : List Char → Int → Prop
  | plain {sign : List Char} {factor : Int} (hsign : IsSign sign factor) : IsPowerSign sign factor
  | plus : IsPowerSign ['+'] 1

/-- A power of ten and its exponent. -/
inductive IsPower : List Char → Int → Prop
  | absent : IsPower [] 0
  | present {e : Char} {sign digits : List Char} {factor : Int} {n : Nat} (he : e = 'e' ∨ e = 'E')
      (hsign : IsPowerSign sign factor) (hn : Text.IsNumeral digits n) :
      IsPower (e :: (sign ++ digits)) (factor * n)

/-- The characters spell the number with the given significand and exponent. -/
inductive IsNumber : List Char → Int → Int → Prop
  | mk {sign whole fraction digits power : List Char} {factor n : Int} (hsign : IsSign sign factor)
      (hwhole : IsWhole whole) (hfraction : IsFraction fraction digits) (hpower : IsPower power n) :
      IsNumber (sign ++ (whole ++ (fraction ++ power)))
        (factor * Text.digitsValue (whole ++ digits))
        (n - digits.length)

/-- A run of digits in front, if there is one. -/
def readRun (cs : List Char) : Option (List Char × List Char) :=
  if (cs.takeWhile Char.isDigit).isEmpty then none
  else some (cs.takeWhile Char.isDigit, cs.dropWhile Char.isDigit)

def readSign : List Char → Int × List Char
  | '-' :: cs => (-1, cs)
  | cs => (1, cs)

def readWhole (cs : List Char) : Option (List Char × List Char) := do
  let (digits, rest) ← readRun cs
  if digits.head? = some '0' && digits != ['0'] then none
  pure (digits, rest)

def readFraction : List Char → Option (List Char × List Char)
  | '.' :: cs => readRun cs
  | cs => some ([], cs)

def readPowerSign : List Char → Int × List Char
  | '+' :: cs => (1, cs)
  | cs => readSign cs

def readExponent (cs : List Char) : Option (Int × List Char) :=
  let (factor, rest) := readPowerSign cs
  (readRun rest).map fun r => (factor * Text.digitsValue r.1, r.2)

def readPower : List Char → Option (Int × List Char)
  | 'e' :: cs => readExponent cs
  | 'E' :: cs => readExponent cs
  | cs => some (0, cs)

def readNumber (cs : List Char) : Option (Value × List Char) := do
  let (factor, rest) := readSign cs
  let (whole, rest) ← readWhole rest
  let (digits, rest) ← readFraction rest
  let (n, rest) ← readPower rest
  pure (.number (factor * Text.digitsValue (whole ++ digits)) (n - digits.length), rest)

/-! ## Strings -/

/-- What stands for one UTF-16 unit or one character of a string. -/
inductive Piece where
  | char (c : Char)
  | unit (n : Nat)

/-- The letters that stand for a character behind a backslash. -/
def shortEscapes : List (Char × Char) :=
  [('"', '"'), ('\\', '\\'), ('/', '/'), ('b', '\x08'), ('f', '\x0c'), ('n', '\n'), ('r', '\r'),
    ('t', '\t')]

/-- The characters are one piece of a string. -/
inductive IsPiece : List Char → Piece → Prop
  | plain {c : Char} (hquote : c ≠ '"') (hbackslash : c ≠ '\\') (hcontrol : 0x20 ≤ c.toNat) :
      IsPiece [c] (.char c)
  | short {letter c : Char} (hletter : (letter, c) ∈ shortEscapes) :
      IsPiece ['\\', letter] (.char c)
  | unit {a b c d : Char} {k l m n : Nat} (ha : Text.hexValue? a = some k)
      (hb : Text.hexValue? b = some l)
      (hc : Text.hexValue? c = some m) (hd : Text.hexValue? d = some n) :
      IsPiece ['\\', 'u', a, b, c, d] (.unit (((k * 16 + l) * 16 + m) * 16 + n))

/-- The characters of some pieces. Two units make one character if they are a surrogate pair, and a
surrogate that stands alone is refused. -/
def joinPieces : List Piece → Option (List Char)
  | [] => some []
  | .char c :: rest => (joinPieces rest).map (c :: ·)
  | .unit n :: rest =>
    if 0xD800 ≤ n ∧ n < 0xDC00 then
      match rest with
      | .unit m :: rest =>
        if 0xDC00 ≤ m ∧ m < 0xE000 then
          (joinPieces rest).map (Char.ofNat (0x10000 + (n - 0xD800) * 0x400 + (m - 0xDC00)) :: ·)
        else none
      | _ => none
    else if 0xDC00 ≤ n ∧ n < 0xE000 then none
    else (joinPieces rest).map (Char.ofNat n :: ·)

/-- The characters are a string between its quotes. -/
inductive IsString : List Char → String → Prop
  | mk {parts : List (List Char)} {pieces : List Piece} {s : String}
      (hparts : List.Forall₂ IsPiece parts pieces)
      (hjoin : joinPieces pieces = some s.toList) : IsString ('"' :: (parts.flatten ++ ['"'])) s

/-- The pieces of a string up to its closing quote. -/
def readPieces : List Char → Option (List Piece × List Char)
  | [] => none
  | '"' :: rest => some ([], rest)
  | '\\' :: 'u' :: a :: b :: c :: d :: rest => do
    let n := (((← Text.hexValue? a) * 16 + (← Text.hexValue? b)) * 16 + (← Text.hexValue? c)) * 16 +
      (← Text.hexValue? d)
    (readPieces rest).map fun r => (.unit n :: r.1, r.2)
  | '\\' :: letter :: rest => do
    let c ← shortEscapes.lookup letter
    (readPieces rest).map fun r => (.char c :: r.1, r.2)
  | c :: rest =>
    if c = '\\' ∨ c.toNat < 0x20 then none
    else (readPieces rest).map fun r => (.char c :: r.1, r.2)

def readString : List Char → Option (String × List Char)
  | '"' :: cs => do
    let (pieces, rest) ← readPieces cs
    let s ← joinPieces pieces
    pure (String.ofList s, rest)
  | _ => none

/-! ## Values -/

/-- The characters are the parts with commas between neighbours and spaces anywhere around them. -/
inductive Separated : List (List Char) → List Char → Prop
  | none {gap : List Char} (hgap : IsGap gap) : Separated [] gap
  | last {before part after : List Char} (hbefore : IsGap before) (hafter : IsGap after) :
      Separated [part] (before ++ (part ++ after))
  | next {before part after next more : List Char} {parts : List (List Char)}
      (hbefore : IsGap before)
      (hafter : IsGap after) (hmore : Separated (next :: parts) more) :
      Separated (part :: next :: parts) (before ++ (part ++ (after ++ ',' :: more)))

mutual

/-- The characters spell the value, without spaces around it. -/
inductive Spells : List Char → Value → Prop
  | null : Spells ['n', 'u', 'l', 'l'] .null
  | yes : Spells ['t', 'r', 'u', 'e'] (.boolean true)
  | no : Spells ['f', 'a', 'l', 's', 'e'] (.boolean false)
  | number {cs : List Char} {significand exponent : Int}
      (hnumber : IsNumber cs significand exponent) :
      Spells cs (.number significand exponent)
  | text {cs : List Char} {s : String} (hstring : IsString cs s) : Spells cs (.text s)
  | list {parts : List (List Char)} {items : List Value} {inner : List Char}
      (hitems : List.Forall₂ Spells parts items) (hinner : Separated parts inner) :
      Spells ('[' :: (inner ++ [']'])) (.list items)
  | record {parts : List (List Char)} {fields : List (String × Value)} {inner : List Char}
      (hfields : List.Forall₂ SpellsField parts fields) (hinner : Separated parts inner) :
      Spells ('\x7b' :: (inner ++ ['\x7d'])) (.record fields)

/-- The characters spell the field: its name, a colon and its value. -/
inductive SpellsField : List Char → String × Value → Prop
  | mk {name before after cs : List Char} {key : String} {v : Value} (hname : IsString name key)
      (hbefore : IsGap before) (hafter : IsGap after) (hvalue : Spells cs v) :
      SpellsField (name ++ (before ++ ':' :: (after ++ cs))) (key, v)

end

/-- The text spells the value, with spaces around it or none. -/
def IsTextOf (s : String) (v : Value) : Prop :=
  ∃ before cs after, s.toList = before ++ (cs ++ after) ∧ IsGap before ∧ IsGap after ∧ Spells cs v

/-- One or more parts with commas between them, up to the closing mark. -/
def readParts {α : Type} (one : List Char → Option (α × List Char)) (close : Char) :
    Nat → List Char → Option (List α × List Char)
  | 0, _ => none
  | fuel + 1, cs => do
    let (a, rest) ← one (skip cs)
    match skip rest with
    | [] => none
    | c :: rest =>
      if c = ',' then (readParts one close fuel rest).map fun r => (a :: r.1, r.2)
      else if c = close then some ([a], rest)
      else none

/-- What stands between brackets or braces, after the opening one. -/
def readInner {α : Type} (one : List Char → Option (α × List Char)) (close : Char)
    (cs : List Char) :
    Option (List α × List Char) :=
  match skip cs with
  | [] => none
  | c :: rest => if c = close then some ([], rest) else readParts one close cs.length cs

def readField (one : List Char → Option (Value × List Char)) (cs : List Char) :
    Option ((String × Value) × List Char) := do
  let (key, rest) ← readString cs
  match skip rest with
  | ':' :: rest =>
    let (v, rest) ← one (skip rest)
    pure ((key, v), rest)
  | _ => none

/-- The value in front. The fuel bounds how deep values may be nested. -/
def readValue : Nat → List Char → Option (Value × List Char)
  | 0, _ => none
  | fuel + 1, cs =>
    match cs with
    | 'n' :: 'u' :: 'l' :: 'l' :: rest => some (.null, rest)
    | 't' :: 'r' :: 'u' :: 'e' :: rest => some (.boolean true, rest)
    | 'f' :: 'a' :: 'l' :: 's' :: 'e' :: rest => some (.boolean false, rest)
    | '"' :: rest => (readString ('"' :: rest)).map fun r => (.text r.1, r.2)
    | '[' :: rest => (readInner (readValue fuel) ']' rest).map fun r => (.list r.1, r.2)
    | '\x7b' :: rest =>
        (readInner (readField (readValue fuel)) '\x7d' rest).map fun r => (.record r.1, r.2)
    | cs => readNumber cs

/-- The value of a JSON text. -/
def read (s : String) : Option Value :=
  match readValue s.length (skip s.toList) with
  | some (v, rest) => if (skip rest).isEmpty then some v else none
  | none => none

/-! ## Reading what is spelled -/

/-- No character follows that could go on with a number. -/
def EndsNumber (rest : List Char) : Prop :=
  ∀ c ∈ rest.head?, c.isDigit = false ∧ c ≠ '.' ∧ c ≠ 'e' ∧ c ≠ 'E'

/-- The part does not begin with a space or a closing mark, and the reader takes exactly the part as
the value. -/
structure Reads {α : Type} (one : List Char → Option (α × List Char)) (part : List Char) (a : α) :
    Prop where
  starts : ∃ c tail, part = c :: tail ∧ isSpace c = false ∧ c ≠ ']' ∧ c ≠ '\x7d'
  reads : ∀ rest, EndsNumber rest → one (part ++ rest) = some (a, rest)

/-- A run of digits is read to its end. -/
theorem readRun_append {digits rest : List Char} (hne : digits ≠ [])
    (hdigits : ∀ c ∈ digits, c.isDigit = true) (hrest : ∀ c ∈ rest.head?, c.isDigit = false) :
    readRun (digits ++ rest) = some (digits, rest) := by
  unfold readRun
  rw [Text.takeWhile_append_of_head hdigits hrest, Text.dropWhile_append_of_head hdigits hrest]
  simp [hne]

theorem readSign_append {sign : List Char} {factor : Int} (hsign : IsSign sign factor)
    {rest : List Char} (hrest : ∀ c ∈ rest.head?, c ≠ '-') :
    readSign (sign ++ rest) = (factor, rest) := by
  cases hsign with
  | minus => rfl
  | absent =>
      rw [List.nil_append, readSign.eq_def]
      split
      next cs => exact absurd rfl (hrest '-' rfl)
      next => rfl

theorem readWhole_append {whole : List Char} (hwhole : IsWhole whole) {rest : List Char}
    (hrest : ∀ c ∈ rest.head?, c.isDigit = false) :
    readWhole (whole ++ rest) = some (whole, rest) := by
  simpa [readWhole, readRun_append hwhole.ne_nil hwhole.digits hrest] using hwhole.leading

/-- A fraction is read to its end; none is read if there is no point. -/
theorem readFraction_append {fraction digits : List Char} (hfraction : IsFraction fraction digits)
    {rest : List Char} (hrest : ∀ c ∈ rest.head?, c.isDigit = false ∧ c ≠ '.') :
    readFraction (fraction ++ rest) = some (digits, rest) := by
  cases hfraction with
  | present hne hdigits => exact readRun_append hne hdigits fun c hc => (hrest c hc).1
  | absent =>
      rw [List.nil_append, readFraction.eq_def]
      split
      next cs => exact absurd rfl (hrest '.' rfl).2
      next => rfl

theorem readPowerSign_append {sign : List Char} {factor : Int} (hsign : IsPowerSign sign factor)
    {rest : List Char} (hrest : ∀ c ∈ rest.head?, c ≠ '+' ∧ c ≠ '-') :
    readPowerSign (sign ++ rest) = (factor, rest) := by
  cases hsign with
  | plus => rfl
  | plain hsign =>
      rw [readPowerSign.eq_def]
      split
      next heq =>
        cases hsign with
        | minus => cases heq
        | absent => exact absurd rfl (hrest '+' (by rw [← List.nil_append rest, heq]; rfl)).1
      next => exact readSign_append hsign fun c hc => (hrest c hc).2

theorem readExponent_append {sign digits : List Char} {factor : Int} {n : Nat}
    (hsign : IsPowerSign sign factor) (hn : Text.IsNumeral digits n) {rest : List Char}
    (hrest : ∀ c ∈ rest.head?, c.isDigit = false) :
    readExponent (sign ++ (digits ++ rest)) = some (factor * n, rest) := by
  have hhead : ∀ c ∈ (digits ++ rest).head?, c ≠ '+' ∧ c ≠ '-' := by
    intro c hc
    have hdigit := hn.isDigit_head rest c hc
    refine ⟨?_, ?_⟩ <;> rintro rfl <;> exact absurd hdigit (by decide)
  have hvalue : Text.digitsValue digits = n := by rw [Text.digitsValue_eq_ofDigits, hn.value]
  rw [readExponent, readPowerSign_append hsign hhead]
  simp [readRun_append hn.ne_nil hn.digits hrest, hvalue]

theorem readPower_append {power : List Char} {n : Int} (hpower : IsPower power n) {rest : List Char}
    (hrest : EndsNumber rest) : readPower (power ++ rest) = some (n, rest) := by
  cases hpower with
  | present he hsign hn =>
      have hread := readExponent_append hsign hn fun c hc => (hrest c hc).1
      rw [List.cons_append, List.append_assoc]
      rcases he with rfl | rfl
      · exact hread
      · exact hread
  | absent =>
      rw [List.nil_append, readPower.eq_def]
      split
      next cs => exact absurd rfl (hrest 'e' rfl).2.2.1
      next cs => exact absurd rfl (hrest 'E' rfl).2.2.2
      next => rfl

/-- What may follow a number may follow its digits, and so may a power. -/
theorem IsPower.head_append {power : List Char} {n : Int} (hpower : IsPower power n)
    {rest : List Char} (hrest : EndsNumber rest) :
    ∀ c ∈ (power ++ rest).head?, c.isDigit = false ∧ c ≠ '.' := by
  cases hpower with
  | absent => exact fun c hc => ⟨(hrest c hc).1, (hrest c hc).2.1⟩
  | present he _ _ =>
      rintro c ⟨⟩
      rcases he with rfl | rfl <;> decide

theorem IsFraction.head_append {fraction digits : List Char}
    (hfraction : IsFraction fraction digits) {rest : List Char}
    (hrest : ∀ c ∈ rest.head?, c.isDigit = false) :
    ∀ c ∈ (fraction ++ rest).head?, c.isDigit = false := by
  cases hfraction with
  | absent => exact hrest
  | present _ _ =>
      rintro c ⟨⟩
      rfl

theorem IsWhole.isDigit_head {whole : List Char} (hwhole : IsWhole whole) (rest : List Char) :
    ∀ c ∈ (whole ++ rest).head?, c.isDigit = true := by
  have hnumeral : Text.IsNumeral whole _ := ⟨hwhole.ne_nil, hwhole.digits, rfl⟩
  exact hnumeral.isDigit_head rest

/-- A number is read with its value, if something follows that ends it. -/
theorem IsNumber.readNumber_append {cs : List Char} {significand exponent : Int}
    (hnumber : IsNumber cs significand exponent) {rest : List Char} (hrest : EndsNumber rest) :
    readNumber (cs ++ rest) = some (.number significand exponent, rest) := by
  cases hnumber with
  | @mk sign whole fraction digits power factor n hsign hwhole hfraction hpower =>
      have hafterPower := hpower.head_append hrest
      have hafterFraction := hfraction.head_append fun c hc => (hafterPower c hc).1
      have hafterSign : ∀ c ∈ (whole ++ (fraction ++ (power ++ rest))).head?, c ≠ '-' := by
        rintro c hc rfl
        exact absurd (hwhole.isDigit_head _ '-' hc) (by decide)
      simp [readNumber, readSign_append hsign hafterSign, readWhole_append hwhole hafterFraction,
        readFraction_append hfraction hafterPower, readPower_append hpower hrest]

/-- A number begins with a minus sign or a digit. -/
theorem IsNumber.head {cs : List Char} {significand exponent : Int}
    (hnumber : IsNumber cs significand exponent) :
    ∃ c tail, cs = c :: tail ∧ (c = '-' ∨ c.isDigit = true) := by
  cases hnumber with
  | @mk sign whole fraction _ power _ _ hsign hwhole _ _ =>
      cases hsign with
      | minus => exact ⟨'-', _, rfl, Or.inl rfl⟩
      | absent =>
          obtain ⟨c, tail, rfl⟩ := List.exists_cons_of_ne_nil hwhole.ne_nil
          exact ⟨c, _, rfl, Or.inr (hwhole.digits c List.mem_cons_self)⟩

theorem IsPiece.readPieces_append {part : List Char} {p : Piece} (hpart : IsPiece part p)
    (rest : List Char) :
    readPieces (part ++ rest) = (readPieces rest).map fun r => (p :: r.1, r.2) := by
  cases hpart with
  | plain hquote hbackslash hcontrol =>
      have hplain : ¬ _ < 0x20 := Nat.not_lt.mpr hcontrol
      simp [readPieces, hbackslash, hplain]
  | short hletter =>
      simp only [shortEscapes, List.mem_cons, Prod.mk.injEq, List.not_mem_nil, or_false] at hletter
      rcases hletter with ⟨rfl, rfl⟩ | ⟨rfl, rfl⟩ | ⟨rfl, rfl⟩ | ⟨rfl, rfl⟩ | ⟨rfl, rfl⟩ |
        ⟨rfl, rfl⟩ | ⟨rfl, rfl⟩ | ⟨rfl, rfl⟩ <;> rfl
  | unit ha hb hc hd => simp [readPieces, ha, hb, hc, hd]

/-- The pieces are read up to the closing quote. -/
theorem readPieces_flatten {parts : List (List Char)} {pieces : List Piece}
    (hparts : List.Forall₂ IsPiece parts pieces) (rest : List Char) :
    readPieces (parts.flatten ++ '"' :: rest) = some (pieces, rest) := by
  induction hparts with
  | nil => rfl
  | cons hpart _ ih =>
      rw [List.flatten_cons, List.append_assoc, hpart.readPieces_append, ih, Option.map_some]

/-- A string is read with its value. -/
theorem IsString.readString_append {cs : List Char} {s : String} (hstring : IsString cs s)
    (rest : List Char) :
    readString (cs ++ rest) = some (s, rest) := by
  obtain ⟨hparts, hjoin⟩ := hstring
  simp [readString, readPieces_flatten hparts, hjoin]

theorem IsString.starts {cs : List Char} {s : String} (hstring : IsString cs s) :
    ∃ tail, cs = '"' :: tail := by
  cases hstring with
  | mk _ _ => exact ⟨_, rfl⟩

theorem endsNumber_gap {gap rest : List Char} (hgap : IsGap gap) (hrest : EndsNumber rest) :
    EndsNumber (gap ++ rest) := by
  cases gap with
  | nil => exact hrest
  | cons c gap =>
      rintro d ⟨⟩
      have hc : isSpace c = true := hgap c List.mem_cons_self
      simp only [isSpace, Bool.or_eq_true, decide_eq_true_eq] at hc
      rcases hc with ((rfl | rfl) | rfl) | rfl <;> decide

theorem endsNumber_cons {c : Char} (hc : c = ',' ∨ c = ']' ∨ c = '\x7d') (rest : List Char) :
    EndsNumber (c :: rest) := by
  rintro d ⟨⟩
  rcases hc with rfl | rfl | rfl <;> decide

section Parts

variable {α : Type} {one : List Char → Option (α × List Char)} {close : Char}

theorem Reads.skip_append {part : List Char} {a : α} (hpart : Reads one part a) {gap : List Char}
    (hgap : IsGap gap) (rest : List Char) : skip (gap ++ (part ++ rest)) = part ++ rest := by
  obtain ⟨c, tail, rfl, hspace, -⟩ := hpart.starts
  exact skip_append_cons hgap hspace (tail ++ rest)

/-- A part that is read, the spaces behind it and the mark that follows. -/
theorem Reads.readParts_step {part before after : List Char} {a : α} (hpart : Reads one part a)
    (hbefore : IsGap before) (hafter : IsGap after) {mark : Char}
    (hmark : mark = ',' ∨ mark = ']' ∨ mark = '\x7d') (fuel : Nat) (rest : List Char) :
    readParts one close (fuel + 1) (before ++ (part ++ (after ++ mark :: rest))) =
      if mark = ',' then (readParts one close fuel rest).map fun r => (a :: r.1, r.2)
      else if mark = close then some ([a], rest)
      else none := by
  have hspace : isSpace mark = false := by rcases hmark with rfl | rfl | rfl <;> decide
  have hread := hpart.reads _ (endsNumber_gap hafter (endsNumber_cons hmark rest))
  rw [readParts, hpart.skip_append hbefore, hread]
  simp [skip_append_cons hafter hspace]

/-- The parts are read up to the closing bracket. The induction is on the parts; the fuel only has
to exceed the length. -/
theorem readParts_append (hclose : close = ']' ∨ close = '\x7d') {parts : List (List Char)}
    {inner : List Char} (hinner : Separated parts inner) {as : List α}
    (hparts : List.Forall₂ (Reads one) parts as) (hne : parts ≠ []) {fuel : Nat}
    (hfuel : inner.length < fuel) (rest : List Char) :
    readParts one close fuel (inner ++ close :: rest) = some (as, rest) := by
  obtain ⟨fuel, rfl⟩ := Nat.exists_eq_add_one_of_ne_zero (Nat.ne_zero_of_lt hfuel)
  induction hinner generalizing as fuel with
  | none => exact absurd rfl hne
  | last hbefore hafter =>
      cases hparts with
      | cons hpart hnone =>
          cases hnone
          have hcomma : close ≠ ',' := by rcases hclose with rfl | rfl <;> decide
          simp [hpart.readParts_step hbefore hafter (Or.inr hclose), hcomma]
  | next hbefore hafter hmore ih =>
      cases hparts with
      | cons hpart hparts =>
          -- The comma alone makes what is left shorter than the fuel.
          obtain ⟨fuel, rfl⟩ : ∃ n, fuel = n + 1 := by
            refine Nat.exists_eq_add_one_of_ne_zero ?_
            simp at hfuel
            omega
          have hrest := ih hparts (List.cons_ne_nil _ _) fuel (by simp at hfuel ⊢; omega)
          simp [hpart.readParts_step hbefore hafter (Or.inl rfl), hrest]

/-- The first part stands after a gap. -/
theorem Separated.first {part : List Char} {parts : List (List Char)} {inner : List Char}
    (hinner : Separated (part :: parts) inner) :
    ∃ before more, inner = before ++ (part ++ more) ∧ IsGap before := by
  cases hinner with
  | last hbefore _ => exact ⟨_, _, rfl, hbefore⟩
  | next hbefore _ _ => exact ⟨_, _, rfl, hbefore⟩

/-- What stands between brackets is read, also if it is empty. -/
theorem readInner_append (hclose : close = ']' ∨ close = '\x7d') {parts : List (List Char)}
    {inner : List Char} (hinner : Separated parts inner) {as : List α}
    (hparts : List.Forall₂ (Reads one) parts as) (rest : List Char) :
    readInner one close (inner ++ close :: rest) = some (as, rest) := by
  cases hparts with
  | nil =>
      cases hinner with
      | none hgap =>
          have hspace : isSpace close = false := by rcases hclose with rfl | rfl <;> decide
          simp [readInner, skip_append_cons hgap hspace]
  | cons hpart hparts =>
      have hfuel : inner.length < (inner ++ close :: rest).length := by simp
      have hread :=
        readParts_append hclose hinner (.cons hpart hparts) (List.cons_ne_nil _ _) hfuel rest
      obtain ⟨before, more, rfl, hbefore⟩ := hinner.first
      obtain ⟨c, tail, rfl, -, hbracket, hbrace⟩ := hpart.starts
      have hopen : c ≠ close := by rcases hclose with rfl | rfl <;> assumption
      have hskip := hpart.skip_append hbefore (more ++ close :: rest)
      simp only [List.append_assoc] at hread ⊢
      rw [readInner, hskip]
      simp only [List.cons_append, if_neg hopen]
      exact hread

end Parts

/-- A field is read if its name and its value are. -/
theorem reads_field {one : List Char → Option (Value × List Char)} {key : String} {v : Value}
    {name before after cs : List Char} (hname : IsString name key) (hbefore : IsGap before)
    (hafter : IsGap after) (hvalue : Reads one cs v) :
    Reads (readField one) (name ++ (before ++ ':' :: (after ++ cs))) (key, v) where
  starts := by
    obtain ⟨tail, rfl⟩ := hname.starts
    exact ⟨'"', _, rfl, by decide⟩
  reads rest hrest := by
    have hcolon : skip (before ++ ':' :: (after ++ (cs ++ rest))) =
        ':' :: (after ++ (cs ++ rest)) :=
      skip_append_cons hbefore rfl _
    simp [readField, hname.readString_append, hcolon, hvalue.skip_append hafter,
      hvalue.reads rest hrest]

/-- No part is longer than the whole, so the fuel of the whole suffices for it. -/
theorem Separated.length_le {parts : List (List Char)} {inner : List Char}
    (hinner : Separated parts inner) :
    ∀ part ∈ parts, part.length ≤ inner.length := by
  induction hinner with
  | none => simp
  | last => simp; omega
  | next _ _ _ ih =>
      intro part hpart
      rcases List.mem_cons.mp hpart with rfl | hpart
      · simp
        omega
      · have hle := ih part hpart
        simp
        omega

/-- The parts between two marks are shorter than the whole. -/
theorem Separated.forall₂_length {α : Type} {spells : List Char → α → Prop}
    {parts : List (List Char)} {as : List α} {inner : List Char} {first last : Char} {fuel : Nat}
    (hinner : Separated parts inner) (hfuel : (first :: (inner ++ [last])).length ≤ fuel + 1)
    (hparts : List.Forall₂ spells parts as) :
    List.Forall₂ (fun part a => part.length ≤ fuel ∧ spells part a) parts as := by
  refine (List.forall₂_and_left parts as).mpr ⟨fun part hpart => ?_, hparts⟩
  have hle := hinner.length_le part hpart
  simp at hfuel
  omega

/-- No value begins with a blank or a closing bracket. -/
theorem Spells.starts {cs : List Char} {v : Value} (hspells : Spells cs v) :
    ∃ c tail, cs = c :: tail ∧ isSpace c = false ∧ c ≠ ']' ∧ c ≠ '\x7d' := by
  cases hspells with
  | number hnumber =>
      obtain ⟨c, tail, rfl, rfl | hdigit⟩ := hnumber.head
      · exact ⟨'-', tail, rfl, by decide⟩
      · refine ⟨c, tail, rfl, ?_⟩
        have hne (d : Char) (hd : d.isDigit = false) : c ≠ d := by
          rintro rfl
          simp [hd] at hdigit
        simp [isSpace, hne]
  | text hstring =>
      obtain ⟨tail, rfl⟩ := hstring.starts
      exact ⟨'"', tail, rfl, by decide⟩
  | _ => exact ⟨_, _, rfl, by decide⟩

theorem readValue_of_number {c : Char} (hc : c = '-' ∨ c.isDigit = true) (fuel : Nat)
    (cs : List Char) :
    readValue (fuel + 1) (c :: cs) = readNumber (c :: cs) := by
  rw [readValue]
  -- Neither a minus sign nor a digit begins a value of another kind.
  all_goals
    intro rest heq
    cases heq
    exact absurd hc (by decide)

/-- Whatever spells a value is read as this value, with fuel for as many levels as there are
characters. -/
theorem Spells.reads {cs : List Char} {v : Value} (hspells : Spells cs v) {fuel : Nat}
    (hfuel : cs.length ≤ fuel) :
    Reads (readValue fuel) cs v := by
  induction fuel generalizing v cs with
  | zero =>
      obtain ⟨c, tail, rfl, -⟩ := hspells.starts
      simp at hfuel
  | succ fuel ih =>
      refine ⟨hspells.starts, fun rest hrest => ?_⟩
      cases hspells with
      | null => rfl
      | yes => rfl
      | no => rfl
      | number hnumber =>
          have hread := hnumber.readNumber_append hrest
          obtain ⟨c, tail, rfl, hc⟩ := hnumber.head
          rw [List.cons_append, readValue_of_number hc]
          exact hread
      | text hstring =>
          have hread := hstring.readString_append rest
          obtain ⟨tail, rfl⟩ := hstring.starts
          rw [List.cons_append] at hread ⊢
          rw [readValue, hread, Option.map_some]
      | @list parts items inner hitems hinner =>
          have hparts : List.Forall₂ (Reads (readValue fuel)) parts items :=
            (hinner.forall₂_length hfuel hitems).imp fun part v hpart => ih hpart.2 hpart.1
          simp [readValue, readInner_append (Or.inl rfl) hinner hparts rest]
      | @record parts fields inner hfields hinner =>
          have hparts : List.Forall₂ (Reads (readField (readValue fuel))) parts fields := by
            refine (hinner.forall₂_length hfuel hfields).imp ?_
            rintro part field ⟨hlength, ⟨hname, hbefore, hafter, hvalue⟩⟩
            refine reads_field hname hbefore hafter (ih hvalue ?_)
            simp at hlength
            omega
          simp [readValue, readInner_append (Or.inr rfl) hinner hparts rest]

theorem endsNumber_of_isGap {gap : List Char} (hgap : IsGap gap) : EndsNumber gap := by
  have hnil : EndsNumber [] := by rintro c ⟨⟩
  simpa using endsNumber_gap hgap hnil

/-- The reader gives the value that the grammar allows for the text. -/
theorem IsTextOf.read_eq {s : String} {v : Value} (hs : IsTextOf s v) : read s = some v := by
  obtain ⟨before, cs, after, hsplit, hbefore, hafter, hspells⟩ := hs
  have hfuel : cs.length ≤ s.length := by
    rw [← String.length_toList, hsplit]
    simp
    omega
  have hreads := hspells.reads hfuel
  have hskip : skip s.toList = cs ++ after := by
    rw [hsplit]
    exact hreads.skip_append hbefore after
  have hempty : skip after = [] := List.dropWhile_eq_nil_iff.mpr hafter
  rw [read, hskip, hreads.reads after (endsNumber_of_isGap hafter)]
  simp [hempty]

/-- No text spells two values. -/
theorem IsTextOf.unique {s : String} {v w : Value} (hv : IsTextOf s v) (hw : IsTextOf s w) :
    v = w := by
  have hread := hv.read_eq
  rw [hw.read_eq] at hread
  exact (Option.some.inj hread).symm

end SqlAudit.Json
