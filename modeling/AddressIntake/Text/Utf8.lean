namespace AddressIntake.Text.Utf8

/-- The bytes of a text. -/
def encode (cs : List Char) : List UInt8 :=
  cs.flatMap String.utf8EncodeChar

/-- A character whose first bytes have been read: the bits so far, the number of bytes still owed,
and the least and greatest value of the next one. -/
structure Pending where
  bits : Nat
  owed : Nat
  least : Nat
  greatest : Nat

/-- What the first byte of a character says: the character itself, the start of a longer one, or
nothing when no character starts with this byte. -/
inductive Lead where
  | char (c : Char)
  | longer (start : Pending)
  | invalid

/-- The meaning of a first byte. Second bytes are narrowed where a shorter form exists, where the
value would be a surrogate, and where it would exceed the last code point. -/
def Lead.ofByte (b : UInt8) : Lead :=
  let n := b.toNat
  if n < 0x80 then .char (Char.ofNat n)
  else if 0xC2 ≤ n && n ≤ 0xDF then .longer ⟨n - 0xC0, 1, 0x80, 0xBF⟩
  else if n == 0xE0 then .longer ⟨0, 2, 0xA0, 0xBF⟩
  else if n == 0xED then .longer ⟨0xD, 2, 0x80, 0x9F⟩
  else if 0xE1 ≤ n && n ≤ 0xEF then .longer ⟨n - 0xE0, 2, 0x80, 0xBF⟩
  else if n == 0xF0 then .longer ⟨0, 3, 0x90, 0xBF⟩
  else if 0xF1 ≤ n && n ≤ 0xF3 then .longer ⟨n - 0xF0, 3, 0x80, 0xBF⟩
  else if n == 0xF4 then .longer ⟨4, 3, 0x80, 0x8F⟩
  else .invalid

/-- Reads bytes, starting inside the given character if there is one. Each element of the result is
a character or an unreadable stretch, which is a maximal part of a malformed one. -/
def units : Option Pending → List UInt8 → List (Option Char)
  | none, [] => []
  | some _, [] => [none]
  | none, b :: rest =>
    match Lead.ofByte b with
    | .char c => some c :: units none rest
    | .longer start => units (some start) rest
    | .invalid => none :: units none rest
  | some p, b :: rest =>
    if p.least ≤ b.toNat && b.toNat ≤ p.greatest then
      let bits := p.bits * 64 + (b.toNat - 0x80)
      if p.owed ≤ 1 then some (Char.ofNat bits) :: units none rest
      else units (some ⟨bits, p.owed - 1, 0x80, 0xBF⟩) rest
    else
      none ::
        match Lead.ofByte b with
        | .char c => some c :: units none rest
        | .longer start => units (some start) rest
        | .invalid => none :: units none rest

/-- The text of the bytes, or nothing if they are not valid UTF-8. -/
def decode? (bytes : List UInt8) : Option (List Char) :=
  (units none bytes).mapM id

/-- The text of the bytes with U+FFFD for each unreadable stretch. -/
def decodeLossy (bytes : List UInt8) : List Char :=
  (units none bytes).map (·.getD '\uFFFD')

end AddressIntake.Text.Utf8
