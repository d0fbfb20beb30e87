/-!
# Texts and their octets

Bodies travel as octets. `bytes` gives the UTF-8 octets of a text, `ofBytes?` accepts exactly these
(`ofBytes?_bytes`), and `lossy` reads any octets: each maximal piece that starts a character but
does not complete it, and each octet that starts none, becomes U+FFFD.
-/

namespace HeatFeed

/-- The octet of an ASCII character. Formats that are read octet by octet name their marks so. -/
@[inline] def ascii (c : Char) : UInt8 := UInt8.ofNat c.toNat

namespace Utf8

/-- The octets of a text. -/
def bytes (s : String) : List UInt8 := s.toByteArray.data.toList

/-- The text with these octets, if they are valid UTF-8. -/
def ofBytes? (bs : List UInt8) : Option String := String.fromUTF8? ⟨bs.toArray⟩

theorem ofBytes?_bytes (s : String) : ofBytes? (bytes s) = some s := by
  have h : (⟨s.toByteArray.data.toList.toArray⟩ : ByteArray) = s.toByteArray := by simp
  rw [ofBytes?, bytes, h, String.fromUTF8?, dif_pos s.isValidUTF8]
  rfl

theorem bytes_of_ofBytes? {bs : List UInt8} {s : String} (h : ofBytes? bs = some s) :
    bytes s = bs := by
  rw [ofBytes?, String.fromUTF8?] at h
  split at h
  · cases h; simp [bytes, String.fromUTF8]
  · cases h

theorem ofBytes?_eq_some_iff {bs : List UInt8} {s : String} :
    ofBytes? bs = some s ↔ bs = bytes s :=
  ⟨fun h => (bytes_of_ofBytes? h).symm, fun h => h ▸ ofBytes?_bytes s⟩

@[simp] theorem bytes_append (s t : String) : bytes (s ++ t) = bytes s ++ bytes t := by
  simp [bytes, String.toByteArray_append]

theorem bytes_injective {s t : String} (h : bytes s = bytes t) : s = t := by
  have hs := ofBytes?_bytes s
  rw [h, ofBytes?_bytes] at hs
  exact (Option.some.inj hs).symm

/-! ### Reading octets that may be invalid -/

/-- A character that has begun: the bits read so far, how many octets are missing, and the range in
which the next one has to lie. -/
structure Pending where
  code : Nat
  missing : Nat
  low : UInt8
  high : UInt8

/-- The replacement character. -/
def replacement : Char := '\ufffd'

/-- What an octet means where a character starts. -/
def start (b : UInt8) : List Char × Option Pending :=
  let n := b.toNat
  if n < 0x80 then ([Char.ofNat n], none)
  else if n < 0xC2 then ([replacement], none)
  else if n < 0xE0 then ([], some ⟨n - 0xC0, 1, 0x80, 0xBF⟩)
  else if n = 0xE0 then ([], some ⟨0, 2, 0xA0, 0xBF⟩)
  else if n = 0xED then ([], some ⟨0xD, 2, 0x80, 0x9F⟩)
  else if n < 0xF0 then ([], some ⟨n - 0xE0, 2, 0x80, 0xBF⟩)
  else if n = 0xF0 then ([], some ⟨0, 3, 0x90, 0xBF⟩)
  else if n < 0xF4 then ([], some ⟨n - 0xF0, 3, 0x80, 0xBF⟩)
  else if n = 0xF4 then ([], some ⟨4, 3, 0x80, 0x8F⟩)
  else ([replacement], none)

/-- One octet: the characters that it completes, and what has begun after it. -/
def step : Option Pending → UInt8 → List Char × Option Pending
  | none, b => start b
  | some p, b =>
    if p.low ≤ b ∧ b ≤ p.high then
      let code := p.code * 64 + (b.toNat - 0x80)
      if p.missing ≤ 1 then ([Char.ofNat code], none)
      else ([], some ⟨code, p.missing - 1, 0x80, 0xBF⟩)
    else (replacement :: (start b).1, (start b).2)

/-- The characters of octets read after what has begun. -/
def lossyChars : Option Pending → List UInt8 → List Char
  | none, [] => []
  | some _, [] => [replacement]
  | begun, b :: bs => (step begun b).1 ++ lossyChars (step begun b).2 bs

/-- The text of any octets; valid UTF-8 is read as it is. -/
def lossy (bs : List UInt8) : String :=
  (ofBytes? bs).getD (String.ofList (lossyChars none bs))

theorem lossy_bytes (s : String) : lossy (bytes s) = s := by simp [lossy, ofBytes?_bytes]

end Utf8

end HeatFeed
