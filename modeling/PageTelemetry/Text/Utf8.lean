/-! UTF-8: writing a text as bytes, and reading bytes with replacement of what is malformed. -/
namespace PageTelemetry.Text.Utf8

def encode (cs : List Char) : List UInt8 := cs.flatMap String.utf8EncodeChar

/-- A character of which some bytes are still missing. The next byte has to lie between `lower`
and `upper`, which excludes overlong forms, surrogates and values beyond the last code point. -/
structure Pending where
  missing : Nat
  value : Nat
  lower : Nat
  upper : Nat

def replacement : Char := '\ufffd'

/-- What a byte starts: a whole character, or one that more bytes complete. -/
def lead (b : Nat) : Except Char Pending :=
  if b < 0x80 then .error (Char.ofNat b)
  else if 0xc2 ≤ b ∧ b ≤ 0xdf then .ok ⟨1,b - 0xc0,0x80,0xbf⟩
  else if b = 0xe0 then .ok ⟨2,0,0xa0,0xbf⟩
  else if b = 0xed then .ok ⟨2,0xd,0x80,0x9f⟩
  else if 0xe1 ≤ b ∧ b ≤ 0xef then .ok ⟨2,b - 0xe0,0x80,0xbf⟩
  else if b = 0xf0 then .ok ⟨3,0,0x90,0xbf⟩
  else if b = 0xf4 then .ok ⟨3,4,0x80,0x8f⟩
  else if 0xf1 ≤ b ∧ b ≤ 0xf3 then .ok ⟨3,b - 0xf0,0x80,0xbf⟩
  else .error replacement

/-- Each longest run of bytes that starts a character without completing it becomes one
replacement character, and so does each byte that starts none. -/
def decodeFrom : Option Pending → List UInt8 → List Char
  | none, [] => []
  | some _, [] => [replacement]
  | none, b::rest =>
    match lead b.toNat with
    | .error c => c::decodeFrom none rest
    | .ok p => decodeFrom (some p) rest
  | some p, b::rest =>
    let n := b.toNat
    if p.lower ≤ n ∧ n ≤ p.upper then
      let value := p.value * 64 + (n - 0x80)
      if p.missing ≤ 1 then Char.ofNat value::decodeFrom none rest
      else decodeFrom (some ⟨p.missing - 1,value,0x80,0xbf⟩) rest
    else
      replacement ::
        match lead n with
        | .error c => c::decodeFrom none rest
        | .ok q => decodeFrom (some q) rest

def decodeLossy (bytes : List UInt8) : List Char := decodeFrom none bytes

end PageTelemetry.Text.Utf8
