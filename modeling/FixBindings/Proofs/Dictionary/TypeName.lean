import FixBindings.Dictionary.DataType
import FixBindings.Proofs.Text.LetterCase

/-!
# Names of data types

Names of data types are looked up without a look at underscores, white space and the case of letters. No two
entries of the table of names are the same in this form (`nodup_table`), so the look-up is membership in the
table (`ofName?_eq_some_iff_mem`) and it does not matter which entry is tried first. Where only ASCII letters
have a case, the form is that of `reduced`, and a name stands for a data type when it is reduced to the
spelling of the data type in generated code or to a name that older dictionaries have for it.
-/

namespace FixBindings.Dictionary

/-! ## Tables -/

/-- In a table without repeated keys each entry is found. -/
theorem lookup_eq_some_iff_mem {α β : Type _} [BEq α] [LawfulBEq α] {entries : List (α × β)}
    (h : (entries.map Prod.fst).Nodup) {a : α} {b : β} :
    entries.lookup a = some b ↔ (a, b) ∈ entries := by
  induction entries with
  | nil => simp
  | cons entry entries ih =>
    obtain ⟨k, v⟩ := entry
    rw [List.map_cons, List.nodup_cons] at h
    rw [List.lookup_cons, List.mem_cons, Prod.mk.injEq]
    by_cases hk : a = k
    · subst hk
      have hnot : (a, b) ∉ entries := fun hm ↦ h.1 (List.mem_map.mpr ⟨(a, b), hm, rfl⟩)
      simp [hnot, eq_comm]
    · have hbeq : (a == k) = false := beq_eq_false_iff_ne.mpr hk
      simp [hbeq, hk, ih h.2]

/-- Entries that are found by a key of their own. -/
theorem lookup_map_self {α β : Type _} [BEq α] [LawfulBEq α] (key : β → α) (bs : List β) (a : α) :
    (bs.map fun b ↦ (key b, b)).lookup a = bs.find? fun b ↦ key b == a := by
  induction bs with
  | nil => rfl
  | cons b bs ih =>
    rw [List.map_cons, List.lookup_cons, List.find?_cons, ih, BEq.comm]

namespace DataType

/-! ## Names and what they stand for -/

/-- A name without its underscores and white space, and with its ASCII letters in upper case. -/
def reduced (name : String) : String :=
  String.ofList ((name.toList.filter fun c ↦ !(c == '_' || Text.isBlank c)).map Char.toUpper)

/-- The name stands for a data type. -/
inductive StandsFor (name : String) : DataType → Prop where
  /-- The spelling in generated code. -/
  | spelling {d : DataType} (h : reduced name = reduced d.spelling) : StandsFor name d
  | multipleValueString (h : reduced name = "MULTIPLEVALUESTRING") : StandsFor name multipleStringValue
  | utcDate (h : reduced name = "UTCDATE") : StandsFor name utcDateOnly
  | date (h : reduced name = "DATE") : StandsFor name utcDateOnly
  | time (h : reduced name = "TIME") : StandsFor name utcTimestamp

/-! ## The table of names -/

/-- The normal forms of the spellings, and the names of older dictionaries. -/
def table : List (String × DataType) :=
  all.map (fun d ↦ (normalize d.spelling, d)) ++ aliases

/-- No two entries of the table have one name. -/
theorem nodup_table : (table.map Prod.fst).Nodup := by
  decide +kernel

theorem mem_all (d : DataType) : d ∈ all := by
  cases d <;> decide

/-- A name is looked up in the table. -/
theorem ofName?_eq_lookup (name : String) : ofName? name = table.lookup (normalize name) := by
  rw [table, List.lookup_append, lookup_map_self, ofName?]
  split
  · rename_i h
    rw [h, Option.some_or]
  · rename_i h
    rw [h, Option.none_or]

/-- A name stands for the data types that the table has for its normal form. -/
theorem ofName?_eq_some_iff_mem {name : String} {d : DataType} :
    ofName? name = some d ↔ (normalize name, d) ∈ table := by
  rw [ofName?_eq_lookup, lookup_eq_some_iff_mem nodup_table]

/-! ## Reduced names -/

theorem toList_reduced (name : String) : (reduced name).toList =
    (name.toList.filter fun c ↦ !(c == '_' || Text.isBlank c)).map Char.toUpper :=
  String.toList_ofList

/-- Names with one reduced form have one normal form. -/
theorem normalize_congr {s t : String} (h : reduced s = reduced t) : normalize s = normalize t := by
  rw [← String.toList_inj, toList_reduced, toList_reduced] at h
  rw [normalize, normalize, Text.upper_congr h]

/-- The normal form of an ASCII name is its reduced form. -/
theorem normalize_of_isAscii {name : String} (h : Text.IsAscii name) : normalize name = reduced name := by
  rw [normalize, reduced, Text.upper_of_isAscii fun c hc ↦ h c (List.mem_of_mem_filter hc)]

theorem isAscii_spelling (d : DataType) : Text.IsAscii d.spelling := by
  have h : d.spelling.toList.all Char.isAlphanum := by cases d <;> rfl
  exact fun c hc ↦ Text.toNat_lt_of_isAlphanum (List.all_eq_true.mp h c hc)

/-- The entries of the table are the reduced forms of names. -/
theorem standsFor_iff_mem {name : String} {d : DataType} : StandsFor name d ↔ (reduced name, d) ∈ table := by
  have hspelling : (reduced name, d) ∈ all.map (fun e ↦ (normalize e.spelling, e)) ↔
      reduced name = reduced d.spelling := by
    rw [← normalize_of_isAscii (isAscii_spelling d), List.mem_map]
    constructor
    · rintro ⟨e, -, he⟩
      obtain ⟨hname, rfl⟩ := Prod.mk.inj he
      exact hname.symm
    · intro h
      exact ⟨d, mem_all d, by rw [h]⟩
  rw [table, List.mem_append, hspelling, aliases]
  constructor
  · rintro (h | h | h | h | h)
    · exact .inl h
    all_goals simp [h]
  · rintro (h | h)
    · exact .spelling h
    · simp only [List.mem_cons, Prod.mk.injEq, List.not_mem_nil, or_false] at h
      rcases h with ⟨h, rfl⟩ | ⟨h, rfl⟩ | ⟨h, rfl⟩ | ⟨h, rfl⟩
      · exact .multipleValueString h
      · exact .utcDate h
      · exact .date h
      · exact .time h

/-- No name stands for two data types. -/
theorem StandsFor.unique {name : String} {d e : DataType} (hd : StandsFor name d) (he : StandsFor name e) :
    d = e := by
  rw [standsFor_iff_mem, ← lookup_eq_some_iff_mem nodup_table] at hd he
  rwa [hd, Option.some_inj] at he

/-- The look-up of an ASCII name finds what the name stands for. -/
theorem ofName?_eq_some_iff_standsFor {name : String} (h : Text.IsAscii name) {d : DataType} :
    ofName? name = some d ↔ StandsFor name d := by
  rw [ofName?_eq_some_iff_mem, normalize_of_isAscii h, standsFor_iff_mem]

/-- Underscores, white space and the case of ASCII letters make no difference to the look-up of a name, and
for ASCII names nothing else does: what is found is the one data type that the name stands for, and nothing is
found just when there is none. -/
theorem ofName?_reduced_and_standsFor :
    (∀ s t, reduced s = reduced t → ofName? s = ofName? t) ∧
      (∀ name, Text.IsAscii name → (∀ d, ofName? name = some d ↔ StandsFor name d) ∧
        (ofName? name = none ↔ ∀ d, ¬StandsFor name d)) ∧
      ∀ name d e, StandsFor name d → StandsFor name e → d = e := by
  refine ⟨fun s t h ↦ ?_, fun name h ↦ ⟨fun d ↦ ofName?_eq_some_iff_standsFor h, ?_⟩,
    fun name d e ↦ StandsFor.unique⟩
  · rw [ofName?_eq_lookup, ofName?_eq_lookup, normalize_congr h]
  · rw [Option.eq_none_iff_forall_ne_some]
    exact forall_congr' fun d ↦ not_congr (ofName?_eq_some_iff_standsFor h)

/-- A wide space and an underscore are not looked at, and an older name is found. -/
theorem ofName?_reduced_and_standsFor_older :
    (reduced "UTC\u2003Time_Stamp" = reduced "utctimestamp" ∧ Text.IsAscii "Multiple value_String" ∧
      StandsFor "Multiple value_String" multipleStringValue) ∧
    ofName? "UTC\u2003Time_Stamp" = ofName? "utctimestamp" ∧
    ofName? "Multiple value_String" = some multipleStringValue ∧
    ∀ e, StandsFor "Multiple value_String" e → multipleStringValue = e := by
  have hreduced : reduced "UTC\u2003Time_Stamp" = reduced "utctimestamp" := by decide +kernel
  have hascii : Text.IsAscii "Multiple value_String" := by decide
  have hname : StandsFor "Multiple value_String" multipleStringValue :=
    .multipleValueString (by decide +kernel)
  obtain ⟨hsame, hfound, hunique⟩ := ofName?_reduced_and_standsFor
  exact ⟨⟨hreduced, hascii, hname⟩, hsame _ _ hreduced, ((hfound _ hascii).1 _).mpr hname,
    fun e ↦ hunique _ _ e hname⟩

example : ofName? "RESERVED100PLUS" = none := by decide +kernel

end DataType

end FixBindings.Dictionary
