/-!
# UTF-8

A character takes one to four bytes. The first byte tells how many, and together with
the second it is held to ranges that leave out every sequence longer than it needs to
be, the surrogates, and what lies beyond the last character; so no two sequences of
bytes have the same text.

* `OneTable.Utf8.encode` – the bytes of a text;
* `OneTable.Utf8.decode?` – the text of bytes, when they are the bytes of one.
-/

namespace OneTable.Utf8

/-- **The bytes of a text.** -/
def encode (cs : List Char) : List UInt8 :=
  cs.flatMap String.utf8EncodeChar

@[simp]
theorem encode_nil : encode [] = [] := rfl

@[simp]
theorem encode_cons (c : Char) (cs : List Char) :
    encode (c :: cs) = String.utf8EncodeChar c ++ encode cs := rfl

@[simp]
theorem encode_append (cs ds : List Char) : encode (cs ++ ds) = encode cs ++ encode ds := by
  simp [encode]

/-- A byte that continues a character. -/
def continues (b : UInt8) : Bool :=
  0x80 ≤ b && b ≤ 0xBF

/-- The six bits of a byte that continues a character. -/
def payload (b : UInt8) : Nat :=
  b.toNat % 64

/-- The first two bytes of a character of three bytes. -/
def opensThree (a b : UInt8) : Bool :=
  continues b && 0xE0 ≤ a && a ≤ 0xEF && (a != 0xE0 || 0xA0 ≤ b) && (a != 0xED || b ≤ 0x9F)

/-- The first two bytes of a character of four bytes. -/
def opensFour (a b : UInt8) : Bool :=
  continues b && 0xF0 ≤ a && a ≤ 0xF4 && (a != 0xF0 || 0x90 ≤ b) && (a != 0xF4 || b ≤ 0x8F)

/-- **The text of bytes,** when they are the bytes of one. -/
def decode? : List UInt8 → Option (List Char)
  | [] => some []
  | a :: r =>
    if a < 0x80 then (decode? r).map (Char.ofNat a.toNat :: ·)
    else
      match r with
      | [] => none
      | b :: r =>
        if 0xC2 ≤ a ∧ a ≤ 0xDF ∧ continues b then
          (decode? r).map (Char.ofNat (a.toNat % 32 * 64 + payload b) :: ·)
        else
          match r with
          | [] => none
          | c :: r =>
            if opensThree a b ∧ continues c then
              (decode? r).map
                (Char.ofNat ((a.toNat % 16 * 64 + payload b) * 64 + payload c) :: ·)
            else
              match r with
              | [] => none
              | d :: r =>
                if opensFour a b ∧ continues c ∧ continues d then
                  (decode? r).map
                    (Char.ofNat (((a.toNat % 8 * 64 + payload b) * 64 + payload c) * 64 + payload d)
                      :: ·)
                else none

end OneTable.Utf8
