import Gloss.Json
import Gloss.Proofs.Text
import Gloss.Text.Digit

/-! A reader of JSON, for the values that `Json` has, which knows nothing of how a value is written.
It reads every value back from what is written of it, so that the fields of an object can be told
from the text. -/

namespace Gloss.Json

/-! ### Reading -/

/-- White space between the parts of a value. -/
def isSpace (c : Char) : Bool :=
  c = ' ' || c = '\t' || c = '\n' || c = '\r'

def skipSpace (t : Text) : Text :=
  t.dropWhile isSpace

/-- The character that a letter after a backslash stands for. -/
def escaped? : Char → Option Char
  | '"' => some '"'
  | '\\' => some '\\'
  | '/' => some '/'
  | 'b' => some '\x08'
  | 'f' => some '\x0c'
  | 'n' => some '\n'
  | 'r' => some '\r'
  | 't' => some '\t'
  | _ => none

/-- The character whose code point hexadecimal digits write. Half of a pair of surrogates is
none. -/
def hexChar? (digits : Text) : Option Char :=
  let code := Text.hexNumber digits
  if digits.all Text.isHexDigit ∧ code.isValidChar then some (Char.ofNat code) else none

/-- The text of a string and what follows it, for what stands after the mark that opens it. -/
def readString : Text → Option (Text × Text)
  | [] => none
  | '"' :: t => some ([], t)
  | '\\' :: 'u' :: a :: b :: c :: d :: t =>
    (hexChar? [a, b, c, d]).bind fun x => (readString t).map fun r => (x :: r.1, r.2)
  | '\\' :: c :: t => (escaped? c).bind fun x => (readString t).map fun r => (x :: r.1, r.2)
  | c :: t => if c.toNat < 0x20 then none else (readString t).map fun r => (c :: r.1, r.2)

/-- A number without a sign. It begins with 0 only if it is 0. -/
def readNatural (t : Text) : Option (Nat × Text) :=
  let digits := t.takeWhile Char.isDigit
  if digits = [] ∨ digits.head? = some '0' ∧ digits.length ≠ 1 then none
  else some (Nat.ofDigitChars 10 digits 0, t.dropWhile Char.isDigit)

def readNumber (t : Text) : Option (Int × Text) :=
  if t.head? = some '-' then (readNatural t.tail).map fun r => (-r.1, r.2)
  else (readNatural t).map fun r => (r.1, r.2)

section Several

variable {α : Type}

/-- One item and those after it, with commas between them and `close` after the last. -/
def readItems (close : Char) (readItem : Text → Option (α × Text)) :
    Nat → Text → Option (List α × Text)
  | 0, _ => none
  | room + 1, t =>
    (readItem (skipSpace t)).bind fun r =>
      match skipSpace r.2 with
      | [] => none
      | c :: rest =>
        if c = close then some ([r.1], rest)
        else if c = ',' then
          (readItems close readItem room rest).map fun more => (r.1 :: more.1, more.2)
        else none

/-- Items up to `close`, which may be none. -/
def readSeveral (close : Char) (readItem : Text → Option (α × Text)) (room : Nat) (t : Text) :
    Option (List α × Text) :=
  if (skipSpace t).head? = some close then some ([], (skipSpace t).tail)
  else readItems close readItem room t

end Several

/-- A name and the value after it. -/
def readField (readValue : Text → Option (Json × Text)) (t : Text) :
    Option ((Text × Json) × Text) :=
  if t.head? = some '"' then
    (readString t.tail).bind fun name =>
      if (skipSpace name.2).head? = some ':' then
        (readValue (skipSpace (skipSpace name.2).tail)).map fun v => ((name.1, v.1), v.2)
      else none
  else none

/-- A value that the text begins with, and what follows it. There is `room` for so many items, and
for values so deep inside each other. -/
def readValue : Nat → Text → Option (Json × Text)
  | 0, _ => none
  | _ + 1, [] => none
  | room + 1, c :: t =>
    if c = '"' then (readString t).map fun r => (.text r.1, r.2)
    else if c = '[' then
      (readSeveral ']' (readValue room) room t).map fun r => (.array r.1, r.2)
    else if c = '{' then
      (readSeveral '}' (readField (readValue room)) room t).map fun r => (.object r.1, r.2)
    else if c = 'n' then (Text.after? "null".toList (c :: t)).map fun rest => (.null, rest)
    else (readNumber (c :: t)).map fun r => (.number r.1, r.2)

/-- The value that a text writes, with white space around it. -/
def read (t : Text) : Option Json :=
  (readValue (t.length + 1) (skipSpace t)).bind fun r =>
    if skipSpace r.2 = [] then some r.1 else none

/-- The value of the first field with a name. -/
def field? (j : Json) (name : String) : Option Json :=
  match j with
  | .object fields => fields.lookup name.toList
  | _ => none

/-! ### Induction over a value -/

/-- A property holds of every value if containers have it when all that is in them has it. -/
@[elab_as_elim]
theorem inductionOn {P : Json → Prop} (j : Json) (null : P .null) (number : ∀ n, P (.number n))
    (text : ∀ t, P (.text t)) (array : ∀ items, (∀ item ∈ items, P item) → P (.array items))
    (object : ∀ fields, (∀ f ∈ fields, P f.2) → P (.object fields)) : P j :=
  match j with
  | .null => null
  | .number n => number n
  | .text t => text t
  | .array items =>
    array items fun item _ => inductionOn item null number text array object
  | .object fields =>
    object fields fun f _ => inductionOn f.2 null number text array object
termination_by sizeOf j
decreasing_by
  · have := List.sizeOf_lt_of_mem ‹item ∈ items›
    simp only [Json.array.sizeOf_spec]
    omega
  · have := List.sizeOf_lt_of_mem ‹f ∈ fields›
    have : sizeOf f = 1 + sizeOf f.1 + sizeOf f.2 := rfl
    simp only [Json.object.sizeOf_spec]
    omega

/-! ### Strings and numbers are read back -/

/-- A control character is read back from its code point. -/
theorem hexChar?_control {c : Char} (h : c.toNat < 0x20) :
    hexChar? ['0', '0', Nat.digitChar (c.toNat / 16), Nat.digitChar (c.toNat % 16)] = some c := by
  have hall : ∀ n < 0x20, hexChar? ['0', '0', Nat.digitChar (n / 16), Nat.digitChar (n % 16)] =
      some (Char.ofNat n) := by decide
  rw [hall c.toNat h, Char.ofNat_toNat]

theorem readString_quotedChar (c : Char) (t : Text) :
    readString (quotedChar c ++ t) = (readString t).map fun r => (c :: r.1, r.2) := by
  unfold quotedChar
  split_ifs with h1 h2 h3 h4 h5 h6 h7 h8
  · subst h1; rfl
  · subst h2; rfl
  · subst h3; rfl
  · subst h4; rfl
  · subst h5; rfl
  · subst h6; rfl
  · subst h7; rfl
  · have hread : hexChar? ['0', '0', Nat.digitChar (c.toNat / 16), Nat.digitChar (c.toNat % 16)] =
        some c := hexChar?_control h8
    change readString ('\\' :: 'u' :: '0' :: '0' :: Nat.digitChar (c.toNat / 16) ::
      Nat.digitChar (c.toNat % 16) :: t) = _
    rw [readString, hread]
    rfl
  · rw [List.singleton_append, readString, if_neg h8]
    · exact h1
    · exact fun _ _ _ _ _ h _ => h2 h
    · exact fun _ _ h _ => h2 h

theorem readString_quoted (t rest : Text) :
    readString (t.flatMap quotedChar ++ '"' :: rest) = some (t, rest) := by
  induction t with
  | nil => rfl
  | cons c t ih =>
    rw [List.flatMap_cons, List.append_assoc, readString_quotedChar, ih]
    rfl

/-- The text does not go on with a digit. -/
def NoDigit (t : Text) : Prop :=
  ∀ c, t.head? = some c → c.isDigit = false

theorem noDigit_cons {c : Char} (h : c.isDigit = false) (t : Text) : NoDigit (c :: t) := by
  rintro _ ⟨⟩
  exact h

/-- Only the digits of 0 begin with a 0. -/
theorem eq_zero_of_head?_toDigits {n : Nat} (h : (Nat.toDigits 10 n).head? = some '0') : n = 0 := by
  induction n using Nat.strong_induction_on with
  | _ n ih =>
    rw [Nat.toDigits_eq_if (by decide)] at h
    split at h
    · next hlt =>
      have hdigit : ∀ d < 10, Nat.digitChar d = '0' → d = 0 := by decide
      exact hdigit n hlt (Option.some.inj h)
    · next hle =>
      rw [List.head?_append_of_ne_nil _ Nat.toDigits_ne_nil] at h
      have := ih (n / 10) (by omega) h
      omega

theorem readNatural_ofNat (n : Nat) {rest : Text} (h : NoDigit rest) :
    readNatural (Text.ofNat n ++ rest) = some (n, rest) := by
  have hall : ∀ c ∈ Text.ofNat n, c.isDigit = true := fun c hc => Text.isDigit_of_mem_ofNat hc
  have htake : (Text.ofNat n ++ rest).takeWhile Char.isDigit = Text.ofNat n := by
    rw [List.takeWhile_append_of_pos hall]
    cases rest with
    | nil => simp
    | cons c r => rw [List.takeWhile_cons_of_neg (by simp [h c rfl]), List.append_nil]
  have hdrop : (Text.ofNat n ++ rest).dropWhile Char.isDigit = rest := by
    rw [List.dropWhile_append_of_pos hall]
    exact Text.dropWhile_eq_self h
  have hzero : ¬((Text.ofNat n).head? = some '0' ∧ (Text.ofNat n).length ≠ 1) := by
    rintro ⟨hhead, hlength⟩
    rw [Text.ofNat_eq_toDigits] at hhead
    obtain rfl := eq_zero_of_head?_toDigits hhead
    exact hlength rfl
  rw [readNatural, htake, hdrop, if_neg (not_or.mpr ⟨Text.ofNat_ne_nil n, hzero⟩),
    Text.ofNat_eq_toDigits, Nat.ofDigitChars_toDigits (by decide) (by decide)]

theorem readNumber_ofInt (n : Int) {rest : Text} (h : NoDigit rest) :
    readNumber (Text.ofInt n ++ rest) = some (n, rest) := by
  cases n with
  | ofNat n =>
    have hminus : (Text.ofNat n ++ rest).head? ≠ some '-' := by
      rw [List.head?_append_of_ne_nil _ (Text.ofNat_ne_nil n)]
      exact fun hhead => Text.not_mem_ofNat (by decide) n (List.mem_of_mem_head? hhead)
    change readNumber (Text.ofNat n ++ rest) = _
    rw [readNumber, if_neg hminus, readNatural_ofNat n h]
    rfl
  | negSucc n =>
    rw [Text.ofInt_negSucc, readNumber, if_pos (by rfl), List.cons_append, List.tail_cons,
      readNatural_ofNat (n + 1) h]
    rfl

/-! ### Several items are read back -/

/-- Texts on lines of their own at a depth of nesting, with commas between them. -/
def separated (depth : Nat) (ts : List Text) : Text :=
  Text.join [','] (ts.map (newline depth ++ ·))

theorem separated_cons_cons (depth : Nat) (t u : Text) (ts : List Text) :
    separated depth (t :: u :: ts) = newline depth ++ t ++ ',' :: separated depth (u :: ts) := by
  rw [separated, List.map_cons, List.map_cons, Text.join, List.append_assoc _ [',']]
  rfl

/-- Texts on lines of their own begin with the first of them. -/
theorem exists_separated_eq (depth : Nat) (t : Text) (ts : List Text) :
    ∃ more, separated depth (t :: ts) = newline depth ++ (t ++ more) := by
  cases ts with
  | nil => exact ⟨[], by rw [List.append_nil]; rfl⟩
  | cons u ts => exact ⟨_, by rw [separated_cons_cons, List.append_assoc]⟩

theorem length_lt_separated (depth : Nat) {t : Text} {ts : List Text} (h : t ∈ ts) :
    t.length < (separated depth ts).length := by
  have hinfix : newline depth ++ t <:+: separated depth ts :=
    Text.infix_join [','] (List.mem_map_of_mem h)
  have hlength := hinfix.length_le
  rw [List.length_append, newline, List.length_cons] at hlength
  omega

theorem length_le_length_separated (depth : Nat) (ts : List Text) :
    ts.length ≤ (separated depth ts).length := by
  have hne : ∀ t ∈ ts.map (newline depth ++ ·), t ≠ [] := by
    rw [List.forall_mem_map]
    exact fun t _ => List.cons_ne_nil _ _
  have := Text.length_le_length_join [','] hne
  rwa [List.length_map] at this

theorem skipSpace_of_head {c : Char} (h : isSpace c = false) (t : Text) :
    skipSpace (c :: t) = c :: t :=
  Text.dropWhile_eq_self fun _ hc => Option.some.inj hc ▸ h

theorem skipSpace_newline (depth : Nat) (t : Text) :
    skipSpace (newline depth ++ t) = skipSpace t := by
  apply List.dropWhile_append_of_pos
  intro c hc
  obtain rfl | hc := List.mem_cons.mp hc
  · decide
  · obtain rfl := List.eq_of_mem_replicate hc
    decide

/-- The text begins with a character that is neither white space nor `close`. -/
def Starts (close : Char) (t : Text) : Prop :=
  ∃ c r, t = c :: r ∧ isSpace c = false ∧ c ≠ close

theorem Starts.skipSpace {close : Char} {t : Text} (h : Starts close t) (rest : Text) :
    skipSpace (t ++ rest) = t ++ rest := by
  obtain ⟨c, r, rfl, hc, -⟩ := h
  exact skipSpace_of_head hc _

section Several

variable {α : Type} {close : Char} {readItem : Text → Option (α × Text)} {write : α → Text}
  {items : List α} {room : Nat}

/-- Items are read back if each of them is, whatever stands after it that is not a digit. -/
theorem readItems_separated (hspace : isSpace close = false) (hcomma : ',' ≠ close)
    (hne : items ≠ []) (hstart : ∀ x ∈ items, Starts close (write x))
    (hitem : ∀ x ∈ items, ∀ rest, NoDigit rest → readItem (write x ++ rest) = some (x, rest))
    (hroom : items.length ≤ room) (outer depth : Nat) (rest : Text) :
    readItems close readItem room
      (separated depth (items.map write) ++ (newline outer ++ close :: rest)) =
        some (items, rest) := by
  induction items generalizing room with
  | nil => exact absurd rfl hne
  | cons x xs ih =>
    obtain ⟨room, rfl⟩ := Nat.exists_eq_add_one.mpr (Nat.zero_lt_of_lt hroom)
    obtain ⟨hx, hxs⟩ := List.forall_mem_cons.mp hitem
    obtain ⟨hxstart, hxsstart⟩ := List.forall_mem_cons.mp hstart
    rw [List.map_cons]
    cases xs with
    | nil =>
      have hend : NoDigit (newline outer ++ close :: rest) := noDigit_cons rfl _
      rw [List.map_nil, separated, List.map_singleton, Text.join, readItems, List.append_assoc,
        skipSpace_newline, hxstart.skipSpace, hx _ hend, Option.bind_some]
      simp only [skipSpace_newline, skipSpace_of_head hspace, if_true]
    | cons y ys =>
      have hmore := ih (List.cons_ne_nil y ys) hxsstart hxs (Nat.le_of_succ_le_succ hroom)
      rw [List.map_cons] at hmore ⊢
      rw [separated_cons_cons, List.append_assoc, List.append_assoc, List.cons_append, readItems,
        skipSpace_newline, hxstart.skipSpace, hx _ (noDigit_cons rfl _), Option.bind_some]
      simp only [skipSpace_of_head (show isSpace ',' = false from rfl), if_neg hcomma, if_true,
        hmore, Option.map_some]

theorem readSeveral_separated (hspace : isSpace close = false) (hcomma : ',' ≠ close)
    (hne : items ≠ []) (hstart : ∀ x ∈ items, Starts close (write x))
    {outer depth : Nat} (hroom : (separated depth (items.map write)).length ≤ room)
    (hitem : ∀ x ∈ items, (write x).length < room →
      ∀ rest, NoDigit rest → readItem (write x ++ rest) = some (x, rest)) (rest : Text) :
    readSeveral close readItem room
      (separated depth (items.map write) ++ (newline outer ++ close :: rest)) =
        some (items, rest) := by
  have hcount := length_le_length_separated depth (items.map write)
  rw [List.length_map] at hcount
  have hread := readItems_separated hspace hcomma hne hstart
    (fun x hx => hitem x hx ((length_lt_separated depth (List.mem_map_of_mem hx)).trans_le hroom))
    (hcount.trans hroom) outer depth rest
  obtain ⟨x, xs, rfl⟩ := List.exists_cons_of_ne_nil hne
  have hfirst : (skipSpace (separated depth ((x :: xs).map write) ++
      (newline outer ++ close :: rest))).head? ≠ some close := by
    have hfirst := hstart x List.mem_cons_self
    obtain ⟨more, hmore⟩ := exists_separated_eq depth (write x) (xs.map write)
    rw [List.map_cons, hmore, List.append_assoc, List.append_assoc, skipSpace_newline,
      hfirst.skipSpace]
    obtain ⟨c, r, hcr, -, hc⟩ := hfirst
    rw [hcr]
    exact fun h => hc (Option.some.inj h)
  rw [readSeveral, if_neg hfirst, hread]

end Several

/-! ### Values are read back -/

theorem write_items (depth : Nat) (item : Json) (items : List Json) :
    newline depth ++ write depth item ++ writeItems depth items =
      separated depth ((item :: items).map (write depth)) := by
  induction items generalizing item with
  | nil =>
    rw [writeItems, List.append_nil]
    rfl
  | cons next items ih =>
    rw [List.map_cons, List.map_cons, separated_cons_cons, ← List.map_cons, ← ih, writeItems]
    simp only [List.append_assoc, List.cons_append]

/-- A field as it stands in an object. -/
def writeField (depth : Nat) (f : Text × Json) : Text :=
  quoted f.1 ++ [':', ' '] ++ write depth f.2

theorem write_fields (depth : Nat) (f : Text × Json) (fields : List (Text × Json)) :
    newline depth ++ quoted f.1 ++ [':', ' '] ++ write depth f.2 ++ writeFields depth fields =
      separated depth ((f :: fields).map (writeField depth)) := by
  induction fields generalizing f with
  | nil =>
    rw [writeFields, List.append_nil, List.append_assoc, List.append_assoc,
      ← List.append_assoc _ [':', ' ']]
    rfl
  | cons next fields ih =>
    rw [List.map_cons, List.map_cons, separated_cons_cons, ← List.map_cons, ← ih, writeFields,
      writeField]
    simp only [List.append_assoc, List.cons_append]

theorem write_array (depth : Nat) {items : List Json} (h : items ≠ []) :
    write depth (.array items) =
      '[' :: (separated (depth + 1) (items.map (write (depth + 1))) ++
        (newline depth ++ [']'])) := by
  obtain ⟨item, items, rfl⟩ := List.exists_cons_of_ne_nil h
  rw [← write_items, write]
  simp only [List.append_assoc, List.cons_append]

theorem write_object (depth : Nat) {fields : List (Text × Json)} (h : fields ≠ []) :
    write depth (.object fields) =
      '{' :: (separated (depth + 1) (fields.map (writeField (depth + 1))) ++
        (newline depth ++ ['}'])) := by
  obtain ⟨f, fields, rfl⟩ := List.exists_cons_of_ne_nil h
  rw [← write_fields, write]
  simp only [List.append_assoc, List.cons_append]

/-- A number begins with its sign or with a digit. -/
theorem exists_ofInt_eq_cons (n : Int) :
    ∃ c t, Text.ofInt n = c :: t ∧ ∀ d : Char, d.isDigit = false → d ≠ '-' → c ≠ d := by
  obtain ⟨c, t, ht⟩ := List.exists_cons_of_ne_nil (Text.ofInt_ne_nil n)
  refine ⟨c, t, ht, ?_⟩
  rintro _ hdigit hminus rfl
  exact Text.not_mem_ofInt hdigit hminus n (ht ▸ List.mem_cons_self)

/-- A value begins neither with white space nor with the end of an array. -/
theorem starts_write (depth : Nat) (j : Json) : Starts ']' (write depth j) := by
  cases j with
  | null => exact ⟨'n', _, rfl, rfl, by decide⟩
  | number n =>
    obtain ⟨c, t, ht, hne⟩ := exists_ofInt_eq_cons n
    refine ⟨c, t, by rw [write, ht], ?_, hne _ rfl (by decide)⟩
    simp only [isSpace, Bool.or_eq_false_iff, decide_eq_false_iff_not]
    exact ⟨⟨⟨hne _ rfl (by decide), hne _ rfl (by decide)⟩, hne _ rfl (by decide)⟩,
      hne _ rfl (by decide)⟩
  | text t => exact ⟨'"', _, rfl, rfl, by decide⟩
  | array items =>
    cases items with
    | nil => exact ⟨'[', _, rfl, rfl, by decide⟩
    | cons item items => exact ⟨'[', _, write_array depth (List.cons_ne_nil _ _), rfl, by decide⟩
  | object fields =>
    cases fields with
    | nil => exact ⟨'{', _, rfl, rfl, by decide⟩
    | cons f fields => exact ⟨'{', _, write_object depth (List.cons_ne_nil _ _), rfl, by decide⟩

/-- A field is read back if its value is. -/
theorem readField_writeField {readValue : Text → Option (Json × Text)} {depth : Nat}
    {f : Text × Json} {rest : Text}
    (h : readValue (write depth f.2 ++ rest) = some (f.2, rest)) :
    readField readValue (writeField depth f ++ rest) = some (f, rest) := by
  have hfield : writeField depth f ++ rest =
      '"' :: (f.1.flatMap quotedChar ++ '"' :: ':' :: ' ' :: (write depth f.2 ++ rest)) := by
    rw [writeField, quoted]
    simp only [List.cons_append, List.append_assoc, List.nil_append]
  have hvalue : skipSpace (' ' :: (write depth f.2 ++ rest)) = write depth f.2 ++ rest :=
    (List.dropWhile_cons_of_pos rfl).trans ((starts_write depth f.2).skipSpace rest)
  rw [hfield, readField, List.head?_cons, if_pos rfl, List.tail_cons, readString_quoted,
    Option.bind_some, skipSpace_of_head rfl, List.head?_cons, if_pos rfl, List.tail_cons, hvalue,
    h]
  rfl

theorem readValue_write (j : Json) (depth : Nat) {room : Nat}
    (hroom : (write depth j).length ≤ room) {rest : Text} (hrest : NoDigit rest) :
    readValue (room + 1) (write depth j ++ rest) = some (j, rest) := by
  induction j using inductionOn generalizing depth room rest with
  | null =>
    rw [write]
    rfl
  | number n =>
    obtain ⟨c, t, ht, hne⟩ := exists_ofInt_eq_cons n
    have hread := readNumber_ofInt n hrest
    rw [ht, List.cons_append] at hread
    rw [write, ht, List.cons_append, readValue, if_neg (hne _ rfl (by decide)),
      if_neg (hne _ rfl (by decide)), if_neg (hne _ rfl (by decide)),
      if_neg (hne _ rfl (by decide)), hread]
    rfl
  | text t =>
    rw [write, quoted, List.append_assoc, List.cons_append, readValue, if_pos rfl,
      List.singleton_append, readString_quoted]
    rfl
  | array items ih =>
    by_cases hne : items = []
    · subst hne
      rfl
    rw [write_array depth hne] at hroom ⊢
    simp only [List.cons_append, List.append_assoc, List.nil_append]
    have hlength : (separated (depth + 1) (items.map (write (depth + 1)))).length ≤ room := by
      rw [List.length_cons, List.length_append] at hroom
      omega
    have hstart : ∀ item ∈ items, Starts ']' (write (depth + 1) item) :=
      fun item _ => starts_write (depth + 1) item
    rw [readValue, if_neg (by decide), if_pos rfl,
      readSeveral_separated rfl (by decide) hne hstart hlength]
    · rfl
    · intro item hitem hlength rest hrest
      obtain ⟨room, rfl⟩ := Nat.exists_eq_add_one.mpr (Nat.zero_lt_of_lt hlength)
      exact ih item hitem (depth + 1) (Nat.le_of_lt_succ hlength) hrest
  | object fields ih =>
    by_cases hne : fields = []
    · subst hne
      rfl
    rw [write_object depth hne] at hroom ⊢
    simp only [List.cons_append, List.append_assoc, List.nil_append]
    have hlength : (separated (depth + 1) (fields.map (writeField (depth + 1)))).length ≤ room := by
      rw [List.length_cons, List.length_append] at hroom
      omega
    have hstart : ∀ f ∈ fields, Starts '}' (writeField (depth + 1) f) :=
      fun f _ => ⟨'"', _, rfl, rfl, by decide⟩
    rw [readValue, if_neg (by decide), if_neg (by decide), if_pos rfl,
      readSeveral_separated rfl (by decide) hne hstart hlength]
    · rfl
    · intro f hf hlength rest hrest
      obtain ⟨room, rfl⟩ := Nat.exists_eq_add_one.mpr (Nat.zero_lt_of_lt hlength)
      rw [writeField, List.length_append] at hlength
      exact readField_writeField (ih f hf (depth + 1) (by omega) hrest)

theorem noDigit_of_isSpace {t : Text} (h : ∀ c ∈ t, isSpace c = true) : NoDigit t := by
  intro c hc
  have hspace := h c (List.mem_of_mem_head? hc)
  simp only [isSpace, Bool.or_eq_true, decide_eq_true_eq] at hspace
  obtain ((rfl | rfl) | rfl) | rfl := hspace <;> rfl

/-- Every value is read back from what is written of it, with white space after it. -/
theorem read_write (j : Json) {after : Text} (h : ∀ c ∈ after, isSpace c = true) :
    read (write 0 j ++ after) = some j := by
  rw [read, (starts_write 0 j).skipSpace, List.length_append,
    readValue_write j 0 (Nat.le_add_right _ _) (noDigit_of_isSpace h), Option.bind_some]
  exact if_pos (List.dropWhile_eq_nil_iff.mpr h)

/-- The reader takes other forms than the writer's too. -/
example : read "[-1 ,\t\"\\u006b\"]".toList = some (.array [.number (-1), .text ['k']]) := rfl

theorem field?_ofFields (fields : List (String × Json)) (name : String) :
    (ofFields fields).field? name = fields.lookup name := by
  change (fields.map fun f => (f.1.toList, f.2)).lookup name.toList = _
  induction fields with
  | nil => rfl
  | cons f fields ih =>
    have hname : (name.toList == f.1.toList) = (name == f.1) := by
      rw [Bool.eq_iff_iff, beq_iff_eq, beq_iff_eq, String.toList_inj]
    rw [List.map_cons, List.lookup_cons, List.lookup_cons, hname, ih]

end Gloss.Json
