import FixBindings.Proofs.Rust.Lines
import FixBindings.Proofs.Rust.MemberOrder

/-!
# Structs are read back

A reader of the struct of a message that knows its lines, but neither the message nor the version. The member
that every struct has parts the head of a struct from the other members, and the first closing brace behind it
ends them. Each of the other members has seven lines, of which six are comments.

A name of a field that is written into a comment neither makes a member nor hides one, whatever it holds. What
the reader reads is the message: its members in order, its name at both places and the bytes of its type.
-/

namespace FixBindings.Rust

open Dictionary Identifier

/-! ## Reading -/

/-- What is read from a struct. -/
structure StructText where
  /-- The further attribute line, if there is one. -/
  customLine : Option String
  /-- The name of the struct. -/
  name : String
  /-- The members, each with its type, but for the one that every struct has. -/
  members : List (String × String)
  /-- The name behind the keyword of the implementation. -/
  implName : String
  /-- The bytes of the message type, from their literal. -/
  msgType : List UInt8
  deriving DecidableEq, Repr

/-- The lines in front of the members. -/
def structHead (ls : List String) : List String :=
  ls.takeWhile (· != markerLine)

/-- The lines of the members. -/
def structBody (ls : List String) : List String :=
  (ls.dropWhile (· != markerLine)).takeWhile (· != "\x7d")

/-- The lines behind the members. -/
def structEnd (ls : List String) : List String :=
  (ls.dropWhile (· != markerLine)).dropWhile (· != "\x7d")

/-- Whether a line declares a member that is public. -/
def isPublicLine (line : String) : Bool :=
  "pub ".toList.isPrefixOf (line.toList.dropWhile (· == ' '))

/-- Reads the lines in front of the members: the further attribute line and the name of the struct. -/
def readHead : List String → Option (Option String × String)
  | [derive, head] =>
    if derive = "#[derive(Debug)]" then (between? "pub struct " "<'a> \x7b" head).map (none, ·) else none
  | [derive, customLine, head] =>
    if derive = "#[derive(Debug)]" then (between? "pub struct " "<'a> \x7b" head).map (some customLine, ·)
    else none
  | _ => none

/-- Reads the line that declares a member: its name and its type. -/
def readMember (line : String) : Option (String × String) :=
  (between? "    pub " "," line).bind (nameBefore? ": ")

/-- Reads members, each of which has six comments and one more line. -/
def readMembers : List String → Option (List (String × String))
  | [] => some []
  | title :: blank₁ :: heading :: blank₂ :: tag :: address :: declaration :: rest =>
    if [title, blank₁, heading, blank₂, tag, address].all isCommentLine then do
      let x ← readMember declaration
      let xs ← readMembers rest
      some (x :: xs)
    else none
  | _ => none

/-- Reads the lines of the members, of which the first is that of the one that every struct has. -/
def readBody : List String → Option (List (String × String))
  | [] => none
  | marker :: rest => if marker = markerLine then readMembers rest else none

/-- Reads the lines behind the members: the name and the bytes of the message type. -/
def readEnd : List String → Option (String × List UInt8)
  | [close, blank, head, msgType, last] =>
    if close = "\x7d" ∧ blank = "" ∧ last = "\x7d" then do
      let name ← between? "impl<'a> " "<'a> \x7b" head
      let literal ← between? "    pub const MSG_TYPE: &'static [u8] = b\"" "\";" msgType
      let bytes ← decodeBytes literal.toList
      some (name, bytes)
    else none
  | _ => none

/-- Reads the lines of a struct. -/
def readStruct (ls : List String) : Option StructText := do
  let (customLine, name) ← readHead (structHead ls)
  let members ← readBody (structBody ls)
  let (implName, msgType) ← readEnd (structEnd ls)
  some ⟨customLine, name, members, implName, msgType⟩

/-! ## Parts of a struct -/

section

variable {α : Type _} [BEq α] [LawfulBEq α] {a : α} {before : List α}

theorem takeWhile_ne_append (h : a ∉ before) (after : List α) :
    (before ++ a :: after).takeWhile (· != a) = before := by
  have hne : ∀ b ∈ before, (b != a) = true := fun b hb ↦ bne_iff_ne.mpr fun heq ↦ h (heq ▸ hb)
  rw [List.takeWhile_append_of_pos hne, List.takeWhile_cons_of_neg (by simp), List.append_nil]

theorem dropWhile_ne_append (h : a ∉ before) (after : List α) :
    (before ++ a :: after).dropWhile (· != a) = a :: after := by
  have hne : ∀ b ∈ before, (b != a) = true := fun b hb ↦ bne_iff_ne.mpr fun heq ↦ h (heq ▸ hb)
  rw [List.dropWhile_append_of_pos hne, List.dropWhile_cons_of_neg (by simp)]

end

/-- The lines that are written in front of the members. -/
def structHeadLines (o : Options) (name : String) : List String :=
  "#[derive(Debug)]" :: (customDeriveLines o ++ ["pub struct " ++ name ++ "<'a> \x7b"])

/-- The lines that are written behind the members. -/
def structEndLines (name literal : String) : List String :=
  ["\x7d", "", "impl<'a> " ++ name ++ "<'a> \x7b",
   "    pub const MSG_TYPE: &'static [u8] = b\"" ++ literal ++ "\";", "\x7d"]

theorem structLines_eq (o : Options) (version : String) (m : Message) (xs : List Member)
    (literal : String) :
    structLines o version m xs literal = structHeadLines o (typeName m.name) ++
      (structBodyLines version xs ++ structEndLines (typeName m.name) literal) := by
  simp only [structLines, structHeadLines, structBodyLines, structEndLines, List.append_assoc,
    List.cons_append, List.nil_append, markerLine]

/-- Only the lines between the head of a struct and its end depend on the layout of the message. -/
theorem exists_messageStruct_eq (o : Options) (version : String) (m : Message) :
    ∃ front, ∃ rest : String → List String, ∀ layout,
      messageStruct o version { m with layout := layout } = (byteLiteral m.msgType).map fun literal ↦
        unlines (front ++ ("pub struct " ++ typeName m.name ++ "<'a> \x7b") ::
          (structBodyLines version (messageMembers o { m with layout := layout }) ++
            "\x7d" :: rest literal)) := by
  refine ⟨"#[derive(Debug)]" :: customDeriveLines o,
    fun literal ↦ (structEndLines (typeName m.name) literal).tail, fun layout ↦ ?_⟩
  refine congrArg (Except.map · (byteLiteral m.msgType)) (funext fun literal ↦ ?_)
  rw [structText, structLines_eq, structHeadLines, ← List.cons_append, List.append_assoc]
  rfl

/-- The further attribute line is written, without the white space around it, when it is not blank. -/
theorem customDeriveLines_eq (o : Options) : customDeriveLines o =
    if Text.isBlankText o.customDeriveLine then [] else [Text.trimmed o.customDeriveLine] := by
  simp only [customDeriveLines, Text.isEmpty_trimmed]

/-- The further attribute line does not start with white space, as the line of the member that every struct
has does. -/
theorem markerLine_notMem_structHeadLines (o : Options) (name : String) :
    markerLine ∉ structHeadLines o name := by
  have hmarker : markerLine.toList.head? = some ' ' := by decide
  have hcustom : markerLine ∉ customDeriveLines o := by
    rw [customDeriveLines_eq]
    split
    · exact List.not_mem_nil
    · rw [List.mem_singleton]
      intro heq
      rw [heq, Text.trimmed, String.toList_ofList] at hmarker
      exact absurd (Text.isBlank_of_head?_trim hmarker) (by decide)
  have hname : markerLine ≠ "pub struct " ++ name ++ "<'a> \x7b" := by
    intro heq
    rw [heq] at hmarker
    simp at hmarker
  simp only [structHeadLines, List.mem_cons, List.mem_append, List.not_mem_nil, or_false, not_or]
  exact ⟨by decide, hcustom, hname⟩

/-- The lines of members are indented. -/
theorem close_notMem_structBodyLines (version : String) (xs : List Member) :
    "\x7d" ∉ structBodyLines version xs := by
  have hindent : ∀ l ∈ structBodyLines version xs, l.toList.head? = some ' ' := by
    rw [structBodyLines, List.forall_mem_cons, List.forall_mem_flatMap]
    refine ⟨by decide, fun x _ ↦ ?_⟩
    simp [memberLines]
  intro hmem
  exact absurd (hindent _ hmem) (by decide)

theorem structHead_structLines (o : Options) (version : String) (m : Message) (xs : List Member)
    (literal : String) : structHead (structLines o version m xs literal) = structHeadLines o (typeName m.name) := by
  rw [structLines_eq, structHead]
  exact takeWhile_ne_append (markerLine_notMem_structHeadLines o _) _

theorem dropWhile_structLines (o : Options) (version : String) (m : Message) (xs : List Member)
    (literal : String) : (structLines o version m xs literal).dropWhile (· != markerLine) =
      structBodyLines version xs ++ structEndLines (typeName m.name) literal := by
  rw [structLines_eq]
  exact dropWhile_ne_append (markerLine_notMem_structHeadLines o _) _

theorem structBody_structLines (o : Options) (version : String) (m : Message) (xs : List Member)
    (literal : String) :
    structBody (structLines o version m xs literal) = structBodyLines version xs := by
  rw [structBody, dropWhile_structLines]
  exact takeWhile_ne_append (close_notMem_structBodyLines version xs) _

theorem structEnd_structLines (o : Options) (version : String) (m : Message) (xs : List Member)
    (literal : String) : structEnd (structLines o version m xs literal) =
      structEndLines (typeName m.name) literal := by
  rw [structEnd, dropWhile_structLines]
  exact dropWhile_ne_append (close_notMem_structBodyLines version xs) _

/-! ## Reading what is written -/

theorem readHead_structHeadLines (o : Options) (name : String) :
    readHead (structHeadLines o name) =
      some (if Text.isBlankText o.customDeriveLine then none else some (Text.trimmed o.customDeriveLine),
        name) := by
  rw [structHeadLines, customDeriveLines_eq]
  split
  · simp only [List.nil_append, readHead, between?_append, if_true, Option.map_some]
  · simp only [List.cons_append, List.nil_append, readHead, between?_append, if_true, Option.map_some]

/-- A member whose name is an identifier is read back from its line. -/
theorem readMember_declarationLine {x : Member} (h : ∀ c ∈ x.identifier.toList, isNameChar c) :
    readMember (declarationLine x) = some (x.identifier, x.type) := by
  have hline : between? "    pub " "," (declarationLine x) = some (x.identifier ++ ": " ++ x.type) := by
    simp only [declarationLine, between?_eq_some_iff, String.append_assoc]
  have hname : nameBefore? ": " (x.identifier ++ ": " ++ x.type) = some (x.identifier, x.type) :=
    nameBefore?_append h rfl rfl x.type
  rw [readMember, hline, Option.bind_some, hname]

/-- Members are read back, whatever the names of their fields hold. -/
theorem readMembers_flatMap (version : String) {xs : List Member}
    (h : ∀ x ∈ xs, ∀ c ∈ x.identifier.toList, isNameChar c) :
    readMembers (xs.flatMap (memberLines version)) = some (xs.map fun x ↦ (x.identifier, x.type)) := by
  induction xs with
  | nil => rfl
  | cons x xs ih =>
    rw [List.forall_mem_cons] at h
    have hcomments : ((memberLines version x).take 6).all isCommentLine := by
      simp [memberLines, isCommentLine, List.isPrefixOf]
    have hmember := readMember_declarationLine h.1
    simp only [memberLines, List.take_succ_cons, List.take_zero] at hcomments
    simp only [declarationLine] at hmember
    simp only [List.flatMap_cons, memberLines, List.cons_append, List.nil_append, readMembers, hcomments,
      hmember, ih h.2, if_true, Option.bind_eq_bind, Option.bind_some, List.map_cons]

theorem readEnd_structEndLines (name : String) (bs : List UInt8) :
    readEnd (structEndLines name (bytesLiteral bs)) = some (name, bs) := by
  simp only [structEndLines, readEnd, between?_append, decodeBytes_bytesLiteral, and_self, if_true,
    Option.bind_eq_bind, Option.bind_some]

/-- The public lines of the body are those that declare a member. -/
theorem filter_isPublicLine_structBodyLines (version : String) (xs : List Member) :
    (structBodyLines version xs).filter isPublicLine = xs.map declarationLine := by
  have hmember (x : Member) : (memberLines version x).filter isPublicLine = [declarationLine x] := by
    simp [memberLines, declarationLine, isPublicLine, List.isPrefixOf]
  rw [structBodyLines, List.filter_cons_of_neg (by decide), List.filter_flatMap]
  simp only [hmember, ← List.map_eq_flatMap]

theorem length_structBodyLines (version : String) (xs : List Member) :
    (structBodyLines version xs).length = 1 + 7 * xs.length := by
  rw [structBodyLines, List.length_cons, List.length_flatMap]
  simp [memberLines, Nat.mul_comm, Nat.add_comm]

theorem isNameChar_of_mem_messageMembers {o : Options} {m : Message} :
    ∀ x ∈ messageMembers o m, ∀ c ∈ x.identifier.toList, isNameChar c := by
  intro x hx
  obtain ⟨f, required, -, rfl⟩ := exists_of_mem_messageMembers hx
  rw [Member.identifier_ofField]
  exact isNameChar_of_mem_memberIdentifier f

/-- The public lines of the body are read as the members. -/
theorem map_readMember_structBodyLines (version : String) {xs : List Member}
    (h : ∀ x ∈ xs, ∀ c ∈ x.identifier.toList, isNameChar c) :
    ((structBodyLines version xs).filter isPublicLine).map readMember =
      xs.map fun x ↦ some (x.identifier, x.type) := by
  rw [filter_isPublicLine_structBodyLines, List.map_map]
  exact List.map_congr_left fun x hx ↦ readMember_declarationLine (h x hx)

/-! ## Lines of a struct -/

section

variable {o : Options} {version : String}

theorem newline_notMem_structHeadLines (ho : LineOptions o) (name : String) :
    ∀ l ∈ structHeadLines o (typeName name), '\n' ∉ l.toList := by
  have hname := newline_notMem_typeName name
  have hcustom : ∀ l ∈ customDeriveLines o, '\n' ∉ l.toList := by
    rw [customDeriveLines_eq]
    split
    · exact List.forall_mem_nil _
    · rw [List.forall_mem_singleton, Text.trimmed, String.toList_ofList]
      exact Text.notMem_trim ho.customDeriveLine
  rw [structHeadLines, List.forall_mem_cons, List.forall_mem_append, List.forall_mem_singleton]
  refine ⟨by decide, hcustom, ?_⟩
  simp only [String.toList_append, List.mem_append, not_or]
  exact ⟨⟨by decide, hname⟩, by decide⟩

theorem newline_notMem_structBodyLines (ho : LineOptions o) (hv : '\n' ∉ version.toList) (m : Message) :
    ∀ l ∈ structBodyLines version (messageMembers o m), '\n' ∉ l.toList := by
  rw [structBodyLines, List.forall_mem_cons, List.forall_mem_flatMap]
  refine ⟨by decide, fun x hx ↦ ?_⟩
  obtain ⟨f, required, -, rfl⟩ := exists_of_mem_messageMembers hx
  exact newline_notMem_memberLines hv ho.cratePath f required

theorem newline_notMem_structEndLines (name : String) (bs : List UInt8) :
    ∀ l ∈ structEndLines (typeName name) (bytesLiteral bs), '\n' ∉ l.toList := by
  have hname := newline_notMem_typeName name
  have hliteral := newline_notMem_bytesLiteral bs
  simp only [structEndLines, List.forall_mem_cons, String.toList_append, List.mem_append, not_or]
  exact ⟨by decide, by decide, ⟨⟨by decide, hname⟩, by decide⟩, ⟨⟨by decide, hliteral⟩, by decide⟩,
    by decide, List.forall_mem_nil _⟩

/-- A message has a struct just when its type is one of characters, which can be encoded. The body of the
struct, for a version and options on one line, consists of the line of the member that every struct has and of
seven lines for each of the other members, of which the one that is public declares the member. The struct is
read back: its members in order, the name of the message at both places and the bytes of the message type. The
further attribute line stands between the first line and the head of the struct, without the white space
around it, just when it is not blank. -/
theorem exists_readStruct_messageStruct (hv : '\n' ∉ version.toList) (ho : LineOptions o) (m : Message) :
    ((∃ text, messageStruct o version m = .ok text) ↔ ∃ t, Text.unspelled m.msgType = .ok t) ∧
    ∀ text, messageStruct o version m = .ok text →
      ∃ ls t, splitLines text = ls ++ [""] ∧ Text.unspelled m.msgType = .ok t ∧
        (structBody ls).head? = some markerLine ∧
        (structBody ls).length = 1 + 7 * (messageMembers o m).length ∧
        ((structBody ls).filter isPublicLine).map readMember =
          (messageMembers o m).map (fun x ↦ some (x.identifier, x.type)) ∧
        readStruct ls = some {
          customLine := if Text.isBlankText o.customDeriveLine then none
            else some (Text.trimmed o.customDeriveLine)
          name := typeName m.name
          members := (messageMembers o m).map fun x ↦ (x.identifier, x.type)
          implName := typeName m.name
          msgType := t.toUTF8.data.toList } := by
  refine ⟨(exists_messageStruct_iff o version).trans Text.isEncodable_iff, fun text htext ↦ ?_⟩
  obtain ⟨hencodable, rfl⟩ := (messageStruct_eq_ok o version).mp htext
  obtain ⟨t, ht, hliteral⟩ := byteLiteral_eq_ok.mp (byteLiteral_of_isEncodable hencodable)
  have hbody := structBody_structLines o version m (messageMembers o m) (typeLiteral m)
  refine ⟨structLines o version m (messageMembers o m) (typeLiteral m), t, ?_, ht, ?_, ?_, ?_, ?_⟩
  · apply splitLines_unlines
    rw [structLines_eq, ← hliteral, List.forall_mem_append, List.forall_mem_append]
    exact ⟨newline_notMem_structHeadLines ho m.name, newline_notMem_structBodyLines ho hv m,
      newline_notMem_structEndLines m.name _⟩
  · rw [hbody]
    rfl
  · rw [hbody, length_structBodyLines]
  · rw [hbody, map_readMember_structBodyLines version isNameChar_of_mem_messageMembers]
  · have hmembers : readBody (structBodyLines version (messageMembers o m)) =
        some ((messageMembers o m).map fun x ↦ (x.identifier, x.type)) := by
      rw [structBodyLines, readBody, if_pos rfl]
      exact readMembers_flatMap version isNameChar_of_mem_messageMembers
    rw [readStruct, structHead_structLines, hbody, structEnd_structLines, readHead_structHeadLines, hmembers,
      ← hliteral, readEnd_structEndLines, utf8Bytes_eq_toUTF8]
    rfl

/-- A message with a field whose name looks like the last member of a struct. -/
def forging : Message where
  name := "Quote\n(\""
  msgType := "S\"é"
  layout := [
    .field ⟨1, "\n    pub forged: u8,\n\x7d", .int, []⟩ true,
    .field ⟨2, "Lifetime", .string, []⟩ false]

/-- An attribute line that is the line of the member that every struct has, but for the white space. -/
def markerOptions : Options where
  customDeriveLine := "  lifetime: PhantomData<&'a ()>, "

theorem exists_readStruct_messageStruct_forging :
    ('\n' ∉ "FIX.4.4".toList ∧ LineOptions markerOptions) ∧
    ∃ text ls, messageStruct markerOptions "FIX.4.4" forging = .ok text ∧ splitLines text = ls ++ [""] ∧
      (structBody ls).head? = some markerLine ∧ (structBody ls).length = 15 ∧
      ((structBody ls).filter isPublicLine).map readMember =
        [some ("pub_forged_u8", "i64"), some ("lifetime_", "::std::option::Option<&'a [u8]>")] ∧
      readStruct ls = some {
        customLine := some "lifetime: PhantomData<&'a ()>,"
        name := "Quote"
        members := [("pub_forged_u8", "i64"), ("lifetime_", "::std::option::Option<&'a [u8]>")]
        implName := "Quote"
        msgType := [0x53, 0x22, 0xC3, 0xA9] } := by
  have hv : '\n' ∉ "FIX.4.4".toList := by decide
  have ho : LineOptions markerOptions := ⟨by decide, by decide, by decide⟩
  have htype : Text.unspelled forging.msgType = .ok forging.msgType :=
    Text.unspelled_of_notMem (by decide)
  refine ⟨⟨hv, ho⟩, ?_⟩
  obtain ⟨hexists, hall⟩ := exists_readStruct_messageStruct hv ho forging
  obtain ⟨text, htext⟩ := hexists.mpr ⟨_, htype⟩
  obtain ⟨ls, t, hlines, ht, hhead, hlength, hpublic, hread⟩ := hall text htext
  obtain rfl := Except.ok.inj (htype.symm.trans ht)
  have hmembers : (messageMembers markerOptions forging).map (fun x ↦ (x.identifier, x.type)) =
      [("pub_forged_u8", "i64"), ("lifetime_", "::std::option::Option<&'a [u8]>")] := by
    simp only [messageMembers_eq_map, forging, occurrences]
    decide +kernel
  have hcount : (messageMembers markerOptions forging).length = 2 := by
    rw [← List.length_map (f := fun x ↦ (x.identifier, x.type)), hmembers]
    rfl
  refine ⟨text, ls, htext, hlines, hhead, ?_, hpublic.trans ?_, hread.trans ?_⟩
  · rw [hlength, hcount]
  · exact (List.map_map ..).symm.trans (congrArg (List.map some) hmembers)
  · rw [hmembers]
    decide +kernel

end

end FixBindings.Rust
