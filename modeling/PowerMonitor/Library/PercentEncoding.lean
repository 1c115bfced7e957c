import Mathlib.Data.List.Basic

/-! Texts that are put together from parts and can be taken apart again: percent-encoded text, and parts that
are joined by a separator none of them has.
-/

set_option autoImplicit false
namespace PowerMonitor.Library

/-! ## Separators -/

section Separators
variable {α : Type} {separator : α}

theorem intercalate_injective [DecidableEq α] {parts others : List (List α)} (nonempty : parts ≠ []) (more : others ≠ [])
    (plain : ∀ part ∈ parts, separator ∉ part) (clean : ∀ part ∈ others, separator ∉ part)
    (same : [separator].intercalate parts = [separator].intercalate others) : parts = others := by
  rw [← List.splitOn_intercalate separator plain nonempty, same, List.splitOn_intercalate separator clean more]

/-- What stands in front of the first separator, and what behind it. -/
theorem append_cons_injective {front back other rest : List α} (plain : separator ∉ front) (clean : separator ∉ other)
    (same : front ++ separator :: back = other ++ separator :: rest) : front = other ∧ back = rest := by
  induction front generalizing other with
  | nil =>
      cases other with
      | nil => exact ⟨rfl, (List.cons.inj same).2⟩
      | cons first more => exact absurd ((List.cons.inj same).1 ▸ List.mem_cons_self) clean
  | cons first more ih =>
      cases other with
      | nil => exact absurd ((List.cons.inj same).1 ▸ List.mem_cons_self) plain
      | cons second later =>
          obtain ⟨rfl, tails⟩ := List.cons.inj same
          obtain ⟨rfl, rest⟩ := ih (fun held => plain (List.mem_cons_of_mem _ held))
            (fun held => clean (List.mem_cons_of_mem _ held)) tails
          exact ⟨rfl, rest⟩

theorem not_mem_intercalate {item : α} {parts : List (List α)} (apart : item ≠ separator)
    (plain : ∀ part ∈ parts, item ∉ part) : item ∉ [separator].intercalate parts := by
  induction parts with
  | nil => exact List.not_mem_nil
  | cons first rest ih =>
      cases rest with
      | nil =>
          rw [List.intercalate_singleton]
          exact plain first List.mem_cons_self
      | cons second more =>
          rw [List.intercalate_cons_cons]
          have later := ih fun part member => plain part (List.mem_cons_of_mem _ member)
          simp only [List.mem_append, List.mem_singleton, not_or]
          exact ⟨⟨plain first List.mem_cons_self, apart⟩, later⟩

end Separators

/-! ## Percent encoding -/

/-- The characters that RFC 3986 reserves for no purpose. -/
def unreserved (code : Nat) : Bool :=
  (65 ≤ code && code ≤ 90) || (97 ≤ code && code ≤ 122) || (48 ≤ code && code ≤ 57) || code == 45 || code == 46 ||
    code == 95 || code == 126

def upperHexDigit (value : Nat) : Char := Char.ofNat (if value < 10 then 48 + value else 55 + value)

def escapeByte (byte : Nat) : List Char :=
  if unreserved byte then [Char.ofNat byte] else ['%', upperHexDigit (byte / 16), upperHexDigit (byte % 16)]

def utf8Bytes (text : String) : List Nat := text.toUTF8.data.toList.map UInt8.toNat

/-- Every byte of the text in UTF-8, those of unreserved characters as they are. -/
def percentEncode (text : String) : String := String.ofList ((utf8Bytes text).flatMap escapeByte)

/-- What percent-encoded text is made of. -/
def encodedChar (c : Char) : Bool := unreserved c.toNat || c == '%'

theorem upperHexDigit_encoded : ∀ value < 16, encodedChar (upperHexDigit value) = true := by decide

theorem unreserved_encoded : ∀ code < 256, unreserved code = true → encodedChar (Char.ofNat code) = true := by
  decide +kernel

theorem upperHexDigit_injective : ∀ first < 16, ∀ second < 16, upperHexDigit first = upperHexDigit second →
    first = second := by decide

theorem ofNat_injective : ∀ first < 256, (Char.ofNat first).toNat = first := by decide +kernel

theorem escapeByte_encoded {byte : Nat} (small : byte < 256) {c : Char} (member : c ∈ escapeByte byte) :
    encodedChar c = true := by
  unfold escapeByte at member
  split at member
  · next plain =>
      cases List.mem_singleton.mp member
      exact unreserved_encoded byte small plain
  · rcases List.mem_cons.mp member with rfl | member
    · rfl
    · rcases List.mem_cons.mp member with rfl | member
      · exact upperHexDigit_encoded _ (by omega)
      · cases List.mem_singleton.mp member
        exact upperHexDigit_encoded _ (by omega)

/-- No escape of a byte begins another one. -/
theorem escapeByte_append_injective {first second : Nat} (small : first < 256) (little : second < 256)
    {front rest : List Char} (same : escapeByte first ++ front = escapeByte second ++ rest) :
    first = second ∧ front = rest := by
  have percent {byte : Nat} (bound : byte < 256) (plain : unreserved byte = true) : Char.ofNat byte ≠ '%' := by
    intro marked
    have code := ofNat_injective byte bound
    rw [marked] at code
    rw [← code] at plain
    cases plain
  unfold escapeByte at same
  split at same
  · next plain =>
      split at same
      · obtain ⟨code, later⟩ := List.cons.inj same
        refine ⟨?_, later⟩
        rw [← ofNat_injective first small, code, ofNat_injective second little]
      · exact absurd (List.cons.inj same).1 (percent small plain)
  · split at same
    · next plain => exact absurd (List.cons.inj same).1.symm (percent little plain)
    · obtain ⟨_, high⟩ := List.cons.inj same
      obtain ⟨high, low⟩ := List.cons.inj high
      obtain ⟨low, later⟩ := List.cons.inj low
      have high := upperHexDigit_injective _ (by omega) _ (by omega) high
      have low := upperHexDigit_injective _ (by omega) _ (by omega) low
      exact ⟨by omega, later⟩

theorem escapeByte_ne_nil (byte : Nat) : escapeByte byte ≠ [] := by
  unfold escapeByte
  split <;> exact List.cons_ne_nil _ _

theorem escapes_injective {bytes others : List Nat} (small : ∀ byte ∈ bytes, byte < 256)
    (little : ∀ byte ∈ others, byte < 256) (same : bytes.flatMap escapeByte = others.flatMap escapeByte) :
    bytes = others := by
  induction bytes generalizing others with
  | nil =>
      cases others with
      | nil => rfl
      | cons second rest =>
          rw [List.flatMap_nil, List.flatMap_cons] at same
          exact absurd (List.append_eq_nil_iff.mp same.symm).1 (escapeByte_ne_nil second)
  | cons first rest ih =>
      cases others with
      | nil =>
          rw [List.flatMap_nil, List.flatMap_cons] at same
          exact absurd (List.append_eq_nil_iff.mp same).1 (escapeByte_ne_nil first)
      | cons second more =>
          rw [List.flatMap_cons, List.flatMap_cons] at same
          obtain ⟨rfl, tails⟩ := escapeByte_append_injective (small first List.mem_cons_self)
            (little second List.mem_cons_self) same
          rw [ih (fun byte member => small byte (List.mem_cons_of_mem _ member))
            (fun byte member => little byte (List.mem_cons_of_mem _ member)) tails]

theorem utf8Bytes_small (text : String) : ∀ byte ∈ utf8Bytes text, byte < 256 := by
  intro byte member
  obtain ⟨origin, _, rfl⟩ := List.mem_map.mp member
  exact origin.toNat_lt

theorem utf8Bytes_injective {text other : String} (same : utf8Bytes text = utf8Bytes other) : text = other := by
  have bytes : text.toUTF8.data.toList = other.toUTF8.data.toList :=
    List.map_injective_iff.mpr (fun _ _ => UInt8.toNat_inj.mp) same
  exact String.toByteArray_inj.mp (ByteArray.ext (Array.toList_inj.mp bytes))

theorem percentEncode_injective : Function.Injective percentEncode := by
  intro text other same
  exact utf8Bytes_injective (escapes_injective (utf8Bytes_small text) (utf8Bytes_small other)
    (String.ofList_injective same))

theorem percentEncode_encoded {text : String} {c : Char} (member : c ∈ (percentEncode text).toList) :
    encodedChar c = true := by
  rw [percentEncode, String.toList_ofList] at member
  obtain ⟨byte, inside, escaped⟩ := List.mem_flatMap.mp member
  exact escapeByte_encoded (utf8Bytes_small text byte inside) escaped

end PowerMonitor.Library
