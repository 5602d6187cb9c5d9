import Gloss.Proofs.Fallible
import Gloss.Proofs.Text
import Gloss.Text.Utf8

/-! Strict UTF-8. The bytes of a text are those of the standard library, they are decoded to the text
again, and no other bytes are decoded at all. -/

namespace Gloss.Utf8

/-! ### Characters -/

theorem isValidChar_toNat (c : Char) : c.toNat.isValidChar := c.valid

theorem toNat_ofNat {n : Nat} (h : n.isValidChar) : (Char.ofNat n).toNat = n := by
  unfold Char.ofNat
  rw [dif_pos h]
  rfl

theorem ofNat_eq {n : Nat} {b : UInt8} (h : n = b.toNat) : UInt8.ofNat n = b := by
  rw [h, UInt8.ofNat_toNat]

theorem toNat_tailByte (n : Nat) : (tailByte n).toNat = 0x80 + n % 0x40 :=
  UInt8.toNat_ofNat_of_lt' (by simp [UInt8.size]; omega)

/-- The bytes of a character are those of the standard library. -/
theorem encodeChar_eq (c : Char) : encodeChar c = String.utf8EncodeChar c := by
  have hn : c.toNat < 0x110000 := by
    have hv := isValidChar_toNat c
    unfold Nat.isValidChar at hv
    omega
  unfold encodeChar String.utf8EncodeChar tailByte
  rw [show c.val.toNat = c.toNat from rfl]
  generalize c.toNat = n at hn ⊢
  dsimp only
  have htail (m : Nat) : 0x80 + m % 0x40 = m % 64 + 128 := Nat.add_comm _ _
  by_cases h1 : n < 0x80
  · rw [if_pos h1, if_pos (show n ≤ 127 by omega)]
  rw [if_neg h1, if_neg (show ¬n ≤ 127 by omega)]
  by_cases h2 : n < 0x800
  · have hlead : 0xc0 + n / 0x40 = n / 64 % 32 + 192 := by omega
    rw [if_pos h2, if_pos (show n ≤ 2047 by omega), hlead, htail]
  rw [if_neg h2, if_neg (show ¬n ≤ 2047 by omega)]
  by_cases h3 : n < 0x10000
  · have hlead : 0xe0 + n / 0x1000 = n / 4096 % 16 + 224 := by omega
    rw [if_pos h3, if_pos (show n ≤ 65535 by omega), hlead, htail, htail]
  · have hlead : 0xf0 + n / 0x40000 = n / 262144 % 8 + 240 := by omega
    rw [if_neg h3, if_neg (show ¬n ≤ 65535 by omega), hlead, htail, htail, htail]

/-! ### Sequences -/

/-- The range of the second byte after the first byte `b` of a longer sequence. -/
def secondRange (b : Nat) : Nat × Nat :=
  (if b = 0xe0 then 0xa0 else if b = 0xf0 then 0x90 else 0x80,
    if b = 0xed then 0x9f else if b = 0xf4 then 0x8f else 0xbf)

theorem mem_secondRange_iff {b x : Nat} : (secondRange b).1 ≤ x ∧ x ≤ (secondRange b).2 ↔
    (0x80 ≤ x ∧ x ≤ 0xbf) ∧ (b = 0xe0 → 0xa0 ≤ x) ∧ (b = 0xed → x ≤ 0x9f) ∧
      (b = 0xf0 → 0x90 ≤ x) ∧ (b = 0xf4 → x ≤ 0x8f) := by
  unfold secondRange
  grind

theorem lead?_eq_some_iff {b : Nat} {l : Lead} : lead? b = some l ↔
    b < 0x80 ∧ l = ⟨b, []⟩ ∨
    0xc2 ≤ b ∧ b ≤ 0xdf ∧ l = ⟨b - 0xc0, [(0x80, 0xbf)]⟩ ∨
    0xe0 ≤ b ∧ b ≤ 0xef ∧ l = ⟨b - 0xe0, [secondRange b, (0x80, 0xbf)]⟩ ∨
    0xf0 ≤ b ∧ b ≤ 0xf4 ∧ l = ⟨b - 0xf0, [secondRange b, (0x80, 0xbf), (0x80, 0xbf)]⟩ := by
  unfold lead? secondRange
  grind

theorem follow_nil_iff {code n : Nat} {bs rest : Bytes} :
    follow code [] bs = .ok (n, rest) ↔ code = n ∧ bs = rest := by
  simp [follow]

theorem follow_cons_iff {code n : Nat} {range : Nat × Nat} {ranges : List (Nat × Nat)}
    {bs rest : Bytes} : follow code (range :: ranges) bs = .ok (n, rest) ↔
      ∃ x more, bs = x :: more ∧ (range.1 ≤ x.toNat ∧ x.toNat ≤ range.2) ∧
        follow (code * 64 + (x.toNat - 0x80)) ranges more = .ok (n, rest) := by
  cases bs with
  | nil => simp [follow]
  | cons x more =>
    simp only [follow, List.cons.injEq]
    constructor
    · intro h
      split at h
      · next hrange =>
        split at h
        · next r hr => exact ⟨x, more, ⟨rfl, rfl⟩, hrange, hr.trans h⟩
        · cases h
      · cases h
    · rintro ⟨_, _, ⟨rfl, rfl⟩, hrange, hr⟩
      rw [if_pos hrange, hr]

/-- From the bytes `b` and `rest` the code point `n` is read, and `rest'` is left. -/
def Reads (b : UInt8) (rest : Bytes) (n : Nat) (rest' : Bytes) : Prop :=
  ∃ l, lead? b.toNat = some l ∧ follow l.bits l.tail rest = .ok (n, rest')

theorem Reads.unique {b : UInt8} {rest rest₁ rest₂ : Bytes} {n₁ n₂ : Nat}
    (h₁ : Reads b rest n₁ rest₁) (h₂ : Reads b rest n₂ rest₂) : n₁ = n₂ ∧ rest₁ = rest₂ := by
  obtain ⟨l₁, hl₁, hf₁⟩ := h₁
  obtain ⟨l₂, hl₂, hf₂⟩ := h₂
  obtain rfl := Option.some.inj (hl₁.symm.trans hl₂)
  exact Prod.mk.inj (Except.ok.inj (hf₁.symm.trans hf₂))

/-- The ranges of the bytes leave the code points of characters alone, each in its shortest form. -/
theorem Reads.exists_char {b : UInt8} {rest rest' : Bytes} {n : Nat} (h : Reads b rest n rest') :
    ∃ c : Char, c.toNat = n ∧ b :: rest = encodeChar c ++ rest' := by
  obtain ⟨l, hl, hf⟩ := h
  obtain ⟨hb, rfl⟩ | ⟨hlow, hhigh, rfl⟩ | ⟨hlow, hhigh, rfl⟩ | ⟨hlow, hhigh, rfl⟩ :=
    lead?_eq_some_iff.mp hl
  · obtain ⟨rfl, rfl⟩ := follow_nil_iff.mp hf
    have hn := toNat_ofNat (n := b.toNat) (by unfold Nat.isValidChar; omega)
    refine ⟨_, hn, ?_⟩
    unfold encodeChar
    simp only [hn, if_pos hb, UInt8.ofNat_toNat, List.singleton_append]
  · obtain ⟨x, more, rfl, hx, hf⟩ := follow_cons_iff.mp hf
    obtain ⟨hcode, rfl⟩ := follow_nil_iff.mp hf
    dsimp only at hx hcode
    have hn := toNat_ofNat (n := n) (by unfold Nat.isValidChar; omega)
    refine ⟨_, hn, ?_⟩
    unfold encodeChar tailByte
    simp only [hn]
    rw [if_neg (by omega), if_pos (by omega), ofNat_eq (b := b) (by omega),
      ofNat_eq (b := x) (by omega)]
    rfl
  · obtain ⟨x, more, rfl, hx, hf⟩ := follow_cons_iff.mp hf
    obtain ⟨y, more, rfl, hy, hf⟩ := follow_cons_iff.mp hf
    obtain ⟨hcode, rfl⟩ := follow_nil_iff.mp hf
    rw [mem_secondRange_iff] at hx
    dsimp only at hy hcode
    have hn := toNat_ofNat (n := n) (by unfold Nat.isValidChar; omega)
    refine ⟨_, hn, ?_⟩
    unfold encodeChar tailByte
    simp only [hn]
    rw [if_neg (by omega), if_neg (by omega), if_pos (by omega), ofNat_eq (b := b) (by omega),
      ofNat_eq (b := x) (by omega), ofNat_eq (b := y) (by omega)]
    rfl
  · obtain ⟨x, more, rfl, hx, hf⟩ := follow_cons_iff.mp hf
    obtain ⟨y, more, rfl, hy, hf⟩ := follow_cons_iff.mp hf
    obtain ⟨z, more, rfl, hz, hf⟩ := follow_cons_iff.mp hf
    obtain ⟨hcode, rfl⟩ := follow_nil_iff.mp hf
    rw [mem_secondRange_iff] at hx
    dsimp only at hy hz hcode
    have hn := toNat_ofNat (n := n) (by unfold Nat.isValidChar; omega)
    refine ⟨_, hn, ?_⟩
    unfold encodeChar tailByte
    simp only [hn]
    rw [if_neg (by omega), if_neg (by omega), if_neg (by omega), ofNat_eq (b := b) (by omega),
      ofNat_eq (b := x) (by omega), ofNat_eq (b := y) (by omega), ofNat_eq (b := z) (by omega)]
    rfl

/-- The bytes of a character are read, whatever follows them. -/
theorem exists_reads (c : Char) (rest' : Bytes) :
    ∃ b tail, encodeChar c = b :: tail ∧ Reads b (tail ++ rest') c.toNat rest' := by
  have hv := isValidChar_toNat c
  unfold Nat.isValidChar at hv
  unfold encodeChar
  dsimp only
  generalize c.toNat = n at hv ⊢
  have hlead (m : Nat) (h : m < 256) : (UInt8.ofNat m).toNat = m := UInt8.toNat_ofNat_of_lt' h
  by_cases h1 : n < 0x80
  · rw [if_pos h1]
    refine ⟨_, _, rfl, _, lead?_eq_some_iff.mpr (.inl ⟨?_, rfl⟩), follow_nil_iff.mpr ⟨?_, rfl⟩⟩
    all_goals rw [hlead n (by omega)]
    omega
  rw [if_neg h1]
  by_cases h2 : n < 0x800
  · rw [if_pos h2]
    have hb := hlead (0xc0 + n / 0x40) (by omega)
    have hx := toNat_tailByte n
    refine ⟨_, _, rfl, _, lead?_eq_some_iff.mpr (.inr (.inl ⟨by omega, by omega, rfl⟩)), ?_⟩
    refine follow_cons_iff.mpr ⟨_, _, rfl, ⟨by omega, by omega⟩, follow_nil_iff.mpr ⟨?_, rfl⟩⟩
    dsimp only
    omega
  rw [if_neg h2]
  by_cases h3 : n < 0x10000
  · rw [if_pos h3]
    have hb := hlead (0xe0 + n / 0x1000) (by omega)
    have hx := toNat_tailByte (n / 0x40)
    have hy := toNat_tailByte n
    refine ⟨_, _, rfl, _,
      lead?_eq_some_iff.mpr (.inr (.inr (.inl ⟨by omega, by omega, rfl⟩))), ?_⟩
    refine follow_cons_iff.mpr ⟨_, _, rfl, mem_secondRange_iff.mpr (by omega), ?_⟩
    refine follow_cons_iff.mpr ⟨_, _, rfl, ⟨by omega, by omega⟩, follow_nil_iff.mpr ⟨?_, rfl⟩⟩
    dsimp only
    omega
  · rw [if_neg h3]
    have hb := hlead (0xf0 + n / 0x40000) (by omega)
    have hx := toNat_tailByte (n / 0x1000)
    have hy := toNat_tailByte (n / 0x40)
    have hz := toNat_tailByte n
    refine ⟨_, _, rfl, _,
      lead?_eq_some_iff.mpr (.inr (.inr (.inr ⟨by omega, by omega, rfl⟩))), ?_⟩
    refine follow_cons_iff.mpr ⟨_, _, rfl, mem_secondRange_iff.mpr (by omega), ?_⟩
    refine follow_cons_iff.mpr ⟨_, _, rfl, ⟨by omega, by omega⟩, ?_⟩
    refine follow_cons_iff.mpr ⟨_, _, rfl, ⟨by omega, by omega⟩, follow_nil_iff.mpr ⟨?_, rfl⟩⟩
    dsimp only
    omega

/-! ### Decoding -/

variable {here : Nat} {b : UInt8} {bs rest rest' : Bytes} {n : Nat} {t : Text}

@[simp] theorem decodeFrom_nil (here : Nat) : decodeFrom here [] = .ok [] := by
  rw [decodeFrom]

theorem decodeFrom_of_reads (here : Nat) (h : Reads b rest n rest') :
    ∃ next, decodeFrom here (b :: rest) =
      (decodeFrom next rest' >>= fun t => .ok (Char.ofNat n :: t)) := by
  obtain ⟨l, hl, hf⟩ := h
  refine ⟨here + 1 + l.tail.length, ?_⟩
  rw [decodeFrom]
  split
  · next hnone => cases hl.symm.trans hnone
  · next l' hl' =>
    obtain rfl := Option.some.inj (hl.symm.trans hl')
    split
    · next hf' => cases hf.symm.trans hf'
    · next n' rest'' hf' =>
      obtain ⟨rfl, rfl⟩ := Prod.mk.inj (Except.ok.inj (hf.symm.trans hf'))
      rfl

theorem exists_reads_of_decodeFrom (h : decodeFrom here (b :: rest) = .ok t) :
    ∃ n rest', Reads b rest n rest' := by
  rw [decodeFrom] at h
  split at h
  · cases h
  · next l hl =>
    split at h
    · cases h
    · next n rest' hf => exact ⟨n, rest', l, hl, hf⟩

theorem decodeFrom_encode (here : Nat) (t : Text) : decodeFrom here (encode t) = .ok t := by
  induction t generalizing here with
  | nil => exact decodeFrom_nil here
  | cons c r ih =>
    obtain ⟨b, tail, hc, hreads⟩ := exists_reads c (encode r)
    have hbytes : encode (c :: r) = b :: (tail ++ encode r) := by
      unfold encode
      rw [List.flatMap_cons, hc, List.cons_append]
    obtain ⟨next, hnext⟩ := decodeFrom_of_reads here hreads
    rw [hbytes, hnext, ih next, Char.ofNat_toNat]
    rfl

theorem eq_encode_of_decodeFrom (h : decodeFrom here bs = .ok t) : bs = encode t := by
  induction hlen : bs.length using Nat.strongRecOn generalizing here bs t with
  | ind len ih =>
    cases bs with
    | nil =>
      rw [decodeFrom_nil] at h
      obtain rfl := Except.ok.inj h
      rfl
    | cons b rest =>
      obtain ⟨n, rest', hreads⟩ := exists_reads_of_decodeFrom h
      obtain ⟨next, hnext⟩ := decodeFrom_of_reads here hreads
      rw [hnext] at h
      obtain ⟨r, hr, h⟩ := bind_eq_ok_iff.mp h
      obtain rfl := Except.ok.inj h
      obtain ⟨c, rfl, hbytes⟩ := hreads.exists_char
      have hshort : rest'.length < len := by
        obtain ⟨l, -, hf⟩ := hreads
        have := length_le_of_follow hf
        rw [← hlen, List.length_cons]
        omega
      have hrest := ih rest'.length hshort hr rfl
      rw [hbytes, hrest, Char.ofNat_toNat]
      rfl

/-- What is decoded are the bytes of texts, and to these texts. -/
theorem decode_eq_ok_iff : decode bs = .ok t ↔ bs = encode t := by
  unfold decode
  constructor
  · exact eq_encode_of_decodeFrom
  · rintro rfl
    exact decodeFrom_encode 0 t

theorem encode_inj {t' : Text} (h : encode t = encode t') : t = t' :=
  Except.ok.inj ((decode_eq_ok_iff.mpr rfl).symm.trans (decode_eq_ok_iff.mpr h))

/-- The bytes of texts are the valid UTF-8 of the standard library. -/
theorem isValidUTF8_iff : bs.toByteArray.IsValidUTF8 ↔ ∃ t, bs = encode t := by
  have hencode (t : Text) : t.utf8Encode = (encode t).toByteArray := by
    unfold List.utf8Encode encode
    rw [show encodeChar = String.utf8EncodeChar from funext encodeChar_eq]
  constructor
  · rintro ⟨t, ht⟩
    rw [hencode] at ht
    exact ⟨t, List.toByteArray_inj.mp ht⟩
  · rintro ⟨t, rfl⟩
    exact ⟨t, (hencode t).symm⟩

/-! ### Byte order marks -/

/-- The bytes of a file without the byte order mark that they begin with, if they do. -/
def unmarked (bs : Bytes) : Bytes :=
  if mark.isPrefixOf bs then bs.drop mark.length else bs

theorem encode_cons (c : Char) (r : Text) : encode (c :: r) = encodeChar c ++ encode r :=
  List.flatMap_cons

theorem encodeChar_append_inj {c c' : Char} (h : encodeChar c ++ rest = encodeChar c' ++ rest') :
    c = c' := by
  obtain ⟨b, tail, hc, hreads⟩ := exists_reads c rest
  obtain ⟨b', tail', hc', hreads'⟩ := exists_reads c' rest'
  rw [hc, hc'] at h
  obtain ⟨rfl, htail⟩ := List.cons.inj h
  have hsame : tail ++ rest = tail' ++ rest' := htail
  rw [hsame] at hreads
  exact Char.toNat_inj.mp (hreads.unique hreads').1

/-- The bytes of a text begin with a byte order mark exactly if the text does. -/
theorem mark_prefix_encode_iff : mark <+: encode t ↔ t.head? = some byteOrderMark := by
  have hmark : encodeChar byteOrderMark = mark := by decide
  cases t with
  | nil => decide
  | cons c r =>
    rw [encode_cons, List.head?_cons, Option.some.injEq]
    constructor
    · rintro ⟨rest, h⟩
      rw [← hmark] at h
      exact (encodeChar_append_inj h).symm
    · rintro rfl
      rw [hmark]
      exact List.prefix_append mark _

theorem unmarked_append (bs : Bytes) : unmarked (mark ++ bs) = bs := by
  have hprefix : mark.isPrefixOf (mark ++ bs) = true :=
    List.isPrefixOf_iff_prefix.mpr (List.prefix_append mark bs)
  rw [unmarked, if_pos hprefix, List.drop_left]

theorem unmarked_encode (h : t.head? ≠ some byteOrderMark) : unmarked (encode t) = encode t :=
  if_neg (mt List.isPrefixOf_iff_prefix.mp (mt mark_prefix_encode_iff.mp h))

theorem encode_eq_nil_iff : encode t = [] ↔ t = [] := by
  constructor
  · intro h
    exact encode_inj h
  · rintro rfl
    rfl

/-- A part of the mark is no text. -/
theorem encode_ne_of_within (h : bs = [0xef] ∨ bs = [0xef, 0xbb]) (t : Text) : bs ≠ encode t := by
  intro heq
  have hdecode := decode_eq_ok_iff.mpr heq
  rcases h with rfl | rfl
  · simp [decode, decodeFrom, lead?, follow] at hdecode
  · simp [decode, decodeFrom, lead?, follow] at hdecode

/-- A file that ends within the mark is empty. Of any other the bytes after the mark are decoded. -/
theorem decodeMarked_eq_ok_iff : decodeMarked bs = .ok t ↔
    (bs = [0xef] ∨ bs = [0xef, 0xbb]) ∧ t = [] ∨ unmarked bs = encode t := by
  by_cases hwithin : bs.isPrefixOf mark = true
  · rw [decodeMarked, if_pos hwithin, Except.ok.injEq, eq_comm]
    have hcases : (bs = [0xef] ∨ bs = [0xef, 0xbb]) ∨ bs = [] ∨ bs = mark := by
      have hprefix := List.isPrefixOf_iff_prefix.mp hwithin
      simp only [mark, List.prefix_cons_iff, List.prefix_nil] at hprefix
      obtain rfl | ⟨_, rfl, rfl | ⟨_, rfl, rfl | ⟨_, rfl, rfl⟩⟩⟩ := hprefix
      · exact .inr (.inl rfl)
      · exact .inl (.inl rfl)
      · exact .inl (.inr rfl)
      · exact .inr (.inr rfl)
    rcases hcases with hpart | hwhole
    · have hunmarked : unmarked bs = bs := by rcases hpart with rfl | rfl <;> rfl
      rw [hunmarked, and_iff_right hpart, or_iff_left (encode_ne_of_within hpart t)]
    · have hunmarked : unmarked bs = [] := by rcases hwhole with rfl | rfl <;> rfl
      have hpart : ¬(bs = [0xef] ∨ bs = [0xef, 0xbb]) := by
        rcases hwhole with rfl | rfl <;> decide
      rw [hunmarked, or_iff_right fun h => hpart h.1, eq_comm (a := []), encode_eq_nil_iff]
  · have hne : ¬((bs = [0xef] ∨ bs = [0xef, 0xbb]) ∧ t = []) := by
      rintro ⟨rfl | rfl, -⟩
      · exact hwithin rfl
      · exact hwithin rfl
    rw [or_iff_right hne, ← decode_eq_ok_iff, decodeMarked, if_neg hwithin, unmarked]
    split
    · exact Iff.rfl
    · exact Iff.rfl

end Gloss.Utf8
