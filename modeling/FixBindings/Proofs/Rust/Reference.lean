import FixBindings.Proofs.Rust.VersionNumbers

/-!
# References stay on their line

The short form of a version holds digits, or the characters of the version in lower case, without the
white space at both ends; so the address of a field has no line feed when the version has none inside.
-/

namespace FixBindings.Rust

open Text

/-- The short form of version numbers has no line feed. -/
theorem VersionNumbers.newline_notMem_slug {cs : List Char} {v : VersionNumbers}
    (h : VersionNumbers.read? cs = some v) : '\n' ∉ v.slug := by
  obtain ⟨hmajor, hminor, hpack⟩ := (read?_eq_some_iff.mp h).areDigits
  simp only [slug, List.mem_append, not_or]
  refine ⟨⟨⟨hmajor.newline_notMem, by decide⟩, hminor.newline_notMem⟩, ?_⟩
  split
  · simp
  · rename_i pack he
    simp [(hpack pack (by simp [he])).newline_notMem]

/-- The short form of a version without a line feed inside has none. -/
theorem newline_notMem_versionSlug {version : String} (h : '\n' ∉ trim version.toList) :
    '\n' ∉ (versionSlug version).toList := by
  rw [versionSlug, String.toList_ofList]
  split
  · rename_i v hv
    exact v.newline_notMem_slug hv
  · exact newline_notMem_lower h

/-- The short form of a version has a line feed if and only if the version has one inside. -/
theorem newline_mem_versionSlug_iff {version : String} :
    '\n' ∈ (versionSlug version).toList ↔ '\n' ∈ trim version.toList := by
  refine ⟨fun h ↦ by_contra fun hn ↦ newline_notMem_versionSlug hn h, fun h ↦ ?_⟩
  rw [versionSlug, String.toList_ofList]
  split
  · rename_i v hv
    exact absurd h (VersionNumbers.read?_eq_some_iff.mp hv).newline_notMem
  · exact newline_mem_lower h

end FixBindings.Rust
