import Beskar7.Lib.GoString

/-!
# Provider IDs

`providerID` writes a host's namespace and name behind the `b7://` prefix
and `parseProviderID` reads them back. Go slices and indexes strings by
byte, so the parser works on the bytes of its argument and returns byte
strings: it skips as many bytes as the prefix has without looking at them,
and a slice of a valid string need not be valid.
-/

namespace Beskar7

open GoString

def ProviderIDPrefix : String := "b7://"

def providerID (ns name : String) : String := ProviderIDPrefix ++ ns ++ "/" ++ name

/-- Where `for i, c := range parts` first meets `'/'`, or `0` if it meets
none. Ranging over a string decodes runes, but the byte of `'/'` never
occurs inside another rune's encoding, nor inside an invalid sequence (which
`range` reads a byte at a time), so that rune starts at the first such byte. -/
def slashIndex (parts : List UInt8) : Nat :=
  (parts.findIdx? (· = '/'.toNat.toUInt8)).getD 0

def parseProviderID (id : String) : Except String (List UInt8 × List UInt8) :=
  if (bytes id).length ≤ (bytes ProviderIDPrefix).length then .error "invalid provider ID format"
  else
    let parts := (bytes id).drop (bytes ProviderIDPrefix).length
    let idx := slashIndex parts
    -- `idx = 0` stands both for no `'/'` and for a `'/'` right at the start
    if idx = 0 then .error "invalid provider ID format"
    else .ok (parts.take idx, parts.drop (idx + 1))

theorem findIdx_slash_eq_none {parts : List UInt8} (h : '/'.toNat.toUInt8 ∉ parts) :
    parts.findIdx? (· = '/'.toNat.toUInt8) = none := by
  rw [List.findIdx?_eq_none_iff]
  intro x hx
  simp only [decide_eq_false_iff_not]
  rintro rfl
  exact h hx

theorem slashIndex_of_not_mem {parts : List UInt8} (h : '/'.toNat.toUInt8 ∉ parts) :
    slashIndex parts = 0 := by
  rw [slashIndex, findIdx_slash_eq_none h]
  rfl

theorem slashIndex_append {xs ys : List UInt8} (h : '/'.toNat.toUInt8 ∉ xs) :
    slashIndex (xs ++ '/'.toNat.toUInt8 :: ys) = xs.length := by
  rw [slashIndex, List.findIdx?_append, findIdx_slash_eq_none h, List.findIdx?_cons]
  simp

theorem bytes_slash : bytes "/" = ['/'.toNat.toUInt8] := by
  decide

/-- An ID behind the prefix is split at its first '/' byte. -/
theorem parseProviderID_prefixed (rest : String) :
    parseProviderID (ProviderIDPrefix ++ rest) =
      if rest = "" ∨ slashIndex (bytes rest) = 0 then .error "invalid provider ID format"
      else .ok ((bytes rest).take (slashIndex (bytes rest)),
        (bytes rest).drop (slashIndex (bytes rest) + 1)) := by
  have hlen : (bytes (ProviderIDPrefix ++ rest)).length ≤ (bytes ProviderIDPrefix).length ↔
      rest = "" := by
    rw [bytes_append, List.length_append, ← bytes_eq_nil, ← List.length_eq_zero_iff]
    omega
  by_cases hrest : rest = ""
  · simp [parseProviderID, hrest]
  · rw [parseProviderID, if_neg (hlen.not.mpr hrest)]
    simp only [hrest, false_or, bytes_append, List.drop_left]

/-- A provider ID reads back as the namespace and the name it was written
from, when the namespace is not empty and has no '/'. -/
theorem parseProviderID_providerID {ns name : String} (hns : ns ≠ "") (hslash : '/' ∉ ns.toList) :
    parseProviderID (providerID ns name) = .ok (bytes ns, bytes name) := by
  have hnot : '/'.toNat.toUInt8 ∉ bytes ns := fun h => hslash (mem_of_ascii_mem_flatMap (by decide) h)
  have hparts : bytes (ns ++ "/" ++ name) = bytes ns ++ '/'.toNat.toUInt8 :: bytes name := by
    simp [bytes_slash]
  have hlen : (bytes ns).length ≠ 0 := by
    rwa [ne_eq, List.length_eq_zero_iff, bytes_eq_nil]
  have hid : providerID ns name = ProviderIDPrefix ++ (ns ++ "/" ++ name) := by
    simp only [providerID, String.append_assoc]
  rw [hid, parseProviderID_prefixed, hparts, slashIndex_append hnot]
  simp [hlen]

/-- An empty namespace does not read back: the '/' right behind the prefix
gives the index 0 that also stands for no '/'. -/
theorem parseProviderID_providerID_empty (name : String) :
    parseProviderID (providerID "" name) = .error "invalid provider ID format" := by
  have hparts : bytes ("/" ++ name) = [] ++ '/'.toNat.toUInt8 :: bytes name := by
    simp [bytes_slash]
  rw [providerID, String.append_empty, String.append_assoc, parseProviderID_prefixed, hparts,
    slashIndex_append (List.not_mem_nil)]
  simp

/-- What an ID behind the prefix parses to: a namespace that is not empty
and has no '/', and a name, from which the ID was written. -/
theorem providerID_of_parseProviderID {rest : String} {p : List UInt8 × List UInt8}
    (h : parseProviderID (ProviderIDPrefix ++ rest) = .ok p) :
    ∃ ns name, ns ≠ "" ∧ '/' ∉ ns.toList ∧ ProviderIDPrefix ++ rest = providerID ns name ∧
      p = (bytes ns, bytes name) := by
  by_cases hmem : '/' ∈ rest.toList
  · -- the ID is written from the parts around the first '/'
    obtain ⟨xs, ys, hsplit, hxs⟩ := List.eq_append_cons_of_mem hmem
    have hrest : ProviderIDPrefix ++ rest = providerID (String.ofList xs) (String.ofList ys) := by
      rw [providerID, String.append_assoc, String.append_assoc]
      congr 1
      apply String.toList_inj.mp
      simp [hsplit]
    have hns : String.ofList xs ≠ "" := by
      intro hnil
      rw [hrest, hnil, parseProviderID_providerID_empty] at h
      cases h
    have hslash : '/' ∉ (String.ofList xs).toList := by
      rwa [String.toList_ofList]
    rw [hrest, parseProviderID_providerID hns hslash] at h
    exact ⟨_, _, hns, hslash, hrest, (Except.ok.inj h).symm⟩
  · -- without a '/' the index is 0
    have hnot : '/'.toNat.toUInt8 ∉ bytes rest := fun h => hmem (mem_of_ascii_mem_flatMap (by decide) h)
    rw [parseProviderID_prefixed, slashIndex_of_not_mem hnot] at h
    simp at h

/-- The two directions of the ProviderID format: an ID written from a
namespace that is not empty and has no '/' reads back as its namespace and
name, and an ID behind the prefix that parses was written from what it parses
to. -/
theorem providerID_parse_inverse :
    (∀ ns name : String, ns ≠ "" → '/' ∉ ns.toList →
      parseProviderID (providerID ns name) = .ok (bytes ns, bytes name)) ∧
    (∀ (rest : String) (p : List UInt8 × List UInt8),
      parseProviderID (ProviderIDPrefix ++ rest) = .ok p →
      ∃ ns name, ns ≠ "" ∧ '/' ∉ ns.toList ∧ ProviderIDPrefix ++ rest = providerID ns name ∧
        p = (bytes ns, bytes name)) :=
  ⟨fun _ _ hns hslash => parseProviderID_providerID hns hslash,
    fun _ _ h => providerID_of_parseProviderID h⟩

theorem host_a_provider_id_reads_back :
    parseProviderID (providerID "default" "host-a") = .ok (bytes "default", bytes "host-a") :=
  providerID_parse_inverse.1 "default" "host-a" (by decide) (by decide)

/-- A foreign ID parses too: the five bytes skipped are not compared with the
prefix, so "metal3://ns/name" reads as namespace "3:" and name "/ns/name",
and no provider ID is written as it. -/
theorem foreign_provider_id_parses :
    parseProviderID "metal3://ns/name" = .ok (bytes "3:", bytes "/ns/name") ∧
      ∀ ns name, providerID ns name ≠ "metal3://ns/name" := by
  refine ⟨by decide, ?_⟩
  intro ns name h
  have hhead := congrArg (fun s => s.toList.head?) h
  simp [providerID, ProviderIDPrefix] at hhead

end Beskar7
