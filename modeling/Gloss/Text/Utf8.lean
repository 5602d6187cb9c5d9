import Gloss.Text.Basic

/-! Strict UTF-8. `decode` accepts exactly the shortest forms of the scalar values, and an error
names the longest run of bytes that a character could begin with. -/

namespace Gloss

/-- The content of a file. -/
abbrev Bytes := List UInt8

namespace Utf8

/-- Why a run of bytes is no character. -/
inductive Reason where
  | startByte
  | continuationByte
  | endOfData
  deriving DecidableEq, Repr

/-- The bytes `bad` at the position `start` are no character. -/
structure Error where
  start : Nat
  bad : Bytes
  reason : Reason
  deriving DecidableEq, Repr

/-- The bits of the character that a first byte carries, and the ranges of the bytes that must
follow it. -/
structure Lead where
  bits : Nat
  tail : List (Nat × Nat)

/-- The reading of a first byte. The ranges after `e0`, `ed`, `f0` and `f4` leave out overlong
forms, surrogates and what lies beyond the last code point. -/
def lead? (b : Nat) : Option Lead :=
  let any := (0x80, 0xbf)
  if b < 0x80 then some ⟨b, []⟩
  else if 0xc2 ≤ b ∧ b ≤ 0xdf then some ⟨b - 0xc0, [any]⟩
  else if b = 0xe0 then some ⟨0, [(0xa0, 0xbf), any]⟩
  else if b = 0xed then some ⟨0xd, [(0x80, 0x9f), any]⟩
  else if 0xe1 ≤ b ∧ b ≤ 0xef then some ⟨b - 0xe0, [any, any]⟩
  else if b = 0xf0 then some ⟨0, [(0x90, 0xbf), any, any]⟩
  else if 0xf1 ≤ b ∧ b ≤ 0xf3 then some ⟨b - 0xf0, [any, any, any]⟩
  else if b = 0xf4 then some ⟨4, [(0x80, 0x8f), any, any]⟩
  else none

/-- The code point that `code` and the bytes of the given ranges make up, and the bytes after it.
An error counts the bytes that were in their ranges. -/
def follow (code : Nat) : List (Nat × Nat) → Bytes → Except (Reason × Nat) (Nat × Bytes)
  | [], rest => .ok (code, rest)
  | _ :: _, [] => .error (.endOfData, 0)
  | (low, high) :: ranges, b :: rest =>
    if low ≤ b.toNat ∧ b.toNat ≤ high then
      match follow (code * 64 + (b.toNat - 0x80)) ranges rest with
      | .ok r => .ok r
      | .error (reason, n) => .error (reason, n + 1)
    else .error (.continuationByte, 0)

theorem length_le_of_follow {code : Nat} {ranges : List (Nat × Nat)} {bs rest : Bytes} {c : Nat}
    (h : follow code ranges bs = .ok (c, rest)) : rest.length ≤ bs.length := by
  induction ranges generalizing code bs with
  | nil => simp only [follow, Except.ok.injEq, Prod.mk.injEq] at h; simp [h.2]
  | cons r rs ih =>
    cases bs with
    | nil => simp [follow] at h
    | cons b bs =>
      simp only [follow] at h
      split at h
      · split at h
        · next hr => cases h; exact Nat.le_succ_of_le (ih hr)
        · simp at h
      · simp at h

/-- The characters of the bytes from the position `here` on. -/
def decodeFrom (here : Nat) (bs : Bytes) : Except Error Text :=
  match bs with
  | [] => .ok []
  | b :: rest =>
    match lead? b.toNat with
    | none => .error ⟨here, [b], .startByte⟩
    | some lead =>
      match h : follow lead.bits lead.tail rest with
      | .error (reason, n) => .error ⟨here, b :: rest.take n, reason⟩
      | .ok (code, rest') => do
        let t ← decodeFrom (here + 1 + lead.tail.length) rest'
        return Char.ofNat code :: t
termination_by bs.length
decreasing_by
  have := length_le_of_follow h
  simp only [List.length_cons]
  omega

/-- The text of a file, if its bytes are UTF-8 throughout. -/
def decode (bs : Bytes) : Except Error Text :=
  decodeFrom 0 bs

/-- The bytes of the byte order mark. -/
def mark : Bytes := [0xef, 0xbb, 0xbf]

/-- The text of a file that may begin with a byte order mark, which is not part of the text. A
file that ends within the mark is empty. -/
def decodeMarked (bs : Bytes) : Except Error Text :=
  if bs.isPrefixOf mark then .ok []
  else if mark.isPrefixOf bs then decode (bs.drop mark.length)
  else decode bs

/-- The byte that holds the last six bits of a number. -/
def tailByte (n : Nat) : UInt8 :=
  UInt8.ofNat (0x80 + n % 0x40)

/-- The bytes of a character. -/
def encodeChar (c : Char) : Bytes :=
  let n := c.toNat
  if n < 0x80 then [UInt8.ofNat n]
  else if n < 0x800 then [UInt8.ofNat (0xc0 + n / 0x40), tailByte n]
  else if n < 0x10000 then
    [UInt8.ofNat (0xe0 + n / 0x1000), tailByte (n / 0x40), tailByte n]
  else
    [UInt8.ofNat (0xf0 + n / 0x40000), tailByte (n / 0x1000), tailByte (n / 0x40), tailByte n]

/-- The bytes of a text. -/
def encode (t : Text) : Bytes :=
  t.flatMap encodeChar

/-- A byte as two hexadecimal digits. -/
def hexByte (b : UInt8) : Text :=
  [Nat.digitChar (b.toNat / 16), Nat.digitChar (b.toNat % 16)]

def Reason.message : Reason → Text
  | .startByte => "invalid start byte".toList
  | .continuationByte => "invalid continuation byte".toList
  | .endOfData => "unexpected end of data".toList

/-- One bad byte is shown; of several, the positions of the first and the last. -/
def Error.message (e : Error) : Text :=
  let place : Text :=
    match e.bad with
    | [b] => "byte 0x".toList ++ hexByte b ++ " in position ".toList ++ Text.ofNat e.start
    | bs => "bytes in position ".toList ++ Text.ofNat e.start ++ ['-'] ++
        Text.ofNat (e.start + bs.length - 1)
  "'utf-8' codec can't decode ".toList ++ place ++ ": ".toList ++ e.reason.message

end Utf8

end Gloss
