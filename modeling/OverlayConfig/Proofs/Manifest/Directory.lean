import Mathlib.Data.List.Lex
import OverlayConfig.Manifest.Set
import OverlayConfig.Proofs.Fields
import OverlayConfig.Proofs.Results
/-!
Directories of manifest templates, against what they stand for: the template files in the order of
the bytes of their names, what each of them gives or how it fails, and what follows for the whole
directory. Nothing else in a directory counts, and neither does the order in which it is listed.
-/
set_option autoImplicit false

namespace OverlayConfig

namespace TemplateDirectory

section Bytes

def bytes (name : String) : List UInt8 := name.toUTF8.data.toList

theorem bytes_eq (name : String) : bytes name = name.toList.flatMap String.utf8EncodeChar := by
  have h : name.toUTF8 = name.toList.utf8Encode := by
    rw [← String.toByteArray_ofList, String.ofList_toList]
    rfl
  rw [bytes, h, List.utf8Encode, List.toList_data_toByteArray]

theorem ofNat_cons_lt {a b : Nat} {s t : List UInt8} (ha : a < 256) (hb : b < 256) :
    UInt8.ofNat a :: s < UInt8.ofNat b :: t ↔ a < b ∨ a = b ∧ s < t := by
  rw [List.cons_lt_cons_iff, UInt8.lt_iff_toNat_lt, ← UInt8.toNat_inj, UInt8.toNat_ofNat',
    UInt8.toNat_ofNat', Nat.mod_eq_of_lt ha, Nat.mod_eq_of_lt hb]

theorem div_lt_or_mod_lt {m n : Nat} (h : m < n) :
    m / 64 < n / 64 ∨ m / 64 = n / 64 ∧ m % 64 < n % 64 := by omega

theorem utf8EncodeChar_append_lt {c d : Char} (h : c < d) (s t : List UInt8) :
    String.utf8EncodeChar c ++ s < String.utf8EncodeChar d ++ t := by
  have hlt : c.val.toNat < d.val.toNat := h
  have hsmall : d.val.toNat < 0x110000 := by rcases d.valid with h | h <;> omega
  unfold String.utf8EncodeChar
  generalize c.val.toNat = m at *
  generalize d.val.toNat = n at *
  have hm : m / 4096 = m / 64 / 64 ∧ m / 262144 = m / 64 / 64 / 64 := by omega
  have hn : n / 4096 = n / 64 / 64 ∧ n / 262144 = n / 64 / 64 / 64 := by omega
  have hfirst : m / 64 / 64 / 64 % 8 = m / 64 / 64 / 64 ∧
      n / 64 / 64 / 64 % 8 = n / 64 / 64 / 64 := by omega
  have hlast := div_lt_or_mod_lt hlt
  have hsecond : m / 64 < n / 64 → _ := div_lt_or_mod_lt
  have hthird : m / 64 / 64 < n / 64 / 64 → _ := div_lt_or_mod_lt
  simp only [hm.1, hm.2, hn.1, hn.2]
  split_ifs <;>
    simp (disch := omega) only [List.cons_append, List.nil_append, ofNat_cons_lt] <;> omega

theorem flatMap_utf8EncodeChar_lt {s t : List Char} (h : s < t) :
    s.flatMap String.utf8EncodeChar < t.flatMap String.utf8EncodeChar := by
  induction h with
  | nil =>
    rw [List.flatMap_nil, List.flatMap_cons]
    cases hbytes : String.utf8EncodeChar _ with
    | nil => exact absurd hbytes String.utf8EncodeChar_ne_nil
    | cons b bs => exact .nil
  | rel h => exact utf8EncodeChar_append_lt h _ _
  | cons _ ih =>
    rw [List.flatMap_cons, List.flatMap_cons]
    exact List.Lex.append_left _ ih _

theorem bytes_lt {name name' : String} (h : name < name') : bytes name < bytes name' := by
  rw [bytes_eq, bytes_eq]
  exact flatMap_utf8EncodeChar_lt h

end Bytes

section Names

theorem fileExtension?_eq_some {name extension : String} :
    fileExtension? name = some extension ↔
      '.' ∉ extension.toList ∧ ∃ stem ≠ "", name = stem ++ "." ++ extension := by
  have hsplit : name.toList.reverse.takeWhile (· ≠ '.') ++ name.toList.reverse.dropWhile (· ≠ '.') =
      name.toList.reverse := List.takeWhile_append_dropWhile
  constructor
  · intro h
    rw [fileExtension?] at h
    split at h
    · next c rest hdrop =>
      cases h
      have hname := congrArg List.reverse hsplit
      rw [hdrop, List.reverse_append, List.reverse_reverse] at hname
      refine ⟨?_, String.ofList (c :: rest).reverse, ?_, ?_⟩
      · rw [String.toList_ofList, List.mem_reverse]
        intro hmem
        have hpoint := List.all_eq_true.mp List.all_takeWhile '.' hmem
        exact of_decide_eq_true hpoint rfl
      · intro hempty
        have := congrArg String.toList hempty
        simp at this
      · rw [← String.toList_inj]
        simpa using hname.symm
    · cases h
  · rintro ⟨hpoint, stem, hstem, rfl⟩
    obtain ⟨c, rest, hrest⟩ : ∃ c rest, stem.toList.reverse = c :: rest := by
      refine List.exists_cons_of_ne_nil fun hnil => hstem ?_
      rw [← String.toList_inj]
      simpa using hnil
    have hreverse : (stem ++ "." ++ extension).toList.reverse =
        extension.toList.reverse ++ '.' :: c :: rest := by simp [hrest]
    have hall : ∀ d ∈ extension.toList.reverse, decide (d ≠ '.') = true := by
      intro d hd
      exact decide_eq_true fun heq => hpoint (heq ▸ List.mem_reverse.mp hd)
    rw [fileExtension?, hreverse, List.takeWhile_append_of_pos hall,
      List.dropWhile_append_of_pos hall]
    simp

/-- A file that is taken for a template: its name is something with one of the three extensions, and
it is no directory. -/
def IsTemplate (entry : String × FileNode) : Prop :=
  (∃ stem ≠ "", ∃ extension ∈ ["yaml", "yml", "json"], entry.1 = stem ++ "." ++ extension) ∧
    entry.2.isDirectory = false

theorem isTemplateName_iff {name : String} : isTemplateName name = true ↔
    ∃ stem ≠ "", ∃ extension ∈ ["yaml", "yml", "json"], name = stem ++ "." ++ extension := by
  have hpoint : ∀ extension ∈ ["yaml", "yml", "json"], '.' ∉ extension.toList := by decide
  rw [isTemplateName]
  constructor
  · intro h
    split at h
    · next extension hextension =>
      obtain ⟨-, stem, hstem, hname⟩ := fileExtension?_eq_some.mp hextension
      exact ⟨stem, hstem, extension, List.contains_iff_mem.mp h, hname⟩
    · cases h
  · rintro ⟨stem, hstem, extension, hextension, hname⟩
    rw [fileExtension?_eq_some.mpr ⟨hpoint _ hextension, stem, hstem, hname⟩]
    exact List.contains_iff_mem.mpr hextension

end Names

section Selection

variable {entries selection other : List (String × FileNode)}

/-- The template files among the entries of a directory, in the order of the bytes of their
names. -/
structure IsSelection (entries selection : List (String × FileNode)) : Prop where
  mem_iff : ∀ entry, entry ∈ selection ↔ entry ∈ entries ∧ IsTemplate entry
  ascending : selection.Pairwise fun a b => bytes a.1 < bytes b.1

theorem mem_ofList (h : (entries.map Prod.fst).Nodup) (entry : String × FileNode) :
    entry ∈ Fields.ofList entries ↔ entry ∈ entries := by
  have hsorted : ((Fields.ofList entries).map Prod.fst).Nodup := by
    refine (Fields.sorted_iff.mp (Fields.sorted_ofList entries)).imp ?_
    rintro a _ hlt rfl
    exact String.lt_irrefl a hlt
  have hget := Fields.get?_ofList h entry.1
  constructor
  · intro hmem
    exact Fields.mem_of_get? (hget.symm.trans (Fields.get?_of_mem hsorted hmem))
  · intro hmem
    exact Fields.mem_of_get? (hget.trans (Fields.get?_of_mem h hmem))

theorem isSelection_templateFiles (h : (entries.map Prod.fst).Nodup) :
    IsSelection entries (templateFiles entries) where
  mem_iff entry := by
    rw [templateFiles, List.mem_filter, mem_ofList h, Bool.and_eq_true, isTemplateName_iff,
      Bool.not_eq_true']
    rfl
  ascending := ((Fields.sorted_ofList entries).filter _).imp bytes_lt

theorem IsSelection.eq_of_templates {entries' : List (String × FileNode)}
    (h : IsSelection entries selection) (h' : IsSelection entries' other)
    (hsame : ∀ entry, IsTemplate entry → (entry ∈ entries ↔ entry ∈ entries')) :
    selection = other := by
  have hne {a b : String × FileNode} (hlt : bytes a.1 < bytes b.1) : a ≠ b := by
    rintro rfl
    exact List.lt_irrefl _ hlt
  have hperm : selection.Perm other := by
    refine (List.perm_ext_iff_of_nodup (h.ascending.imp hne) (h'.ascending.imp hne)).mpr ?_
    intro entry
    rw [h.mem_iff, h'.mem_iff]
    exact and_congr_left (hsame entry)
  exact hperm.eq_of_pairwise (fun a b _ _ hab hba => absurd hba (List.lt_asymm hab))
    h.ascending h'.ascending

theorem IsSelection.eq (h : IsSelection entries selection) (h' : IsSelection entries other) :
    selection = other := h.eq_of_templates h' fun _ _ => Iff.rfl

end Selection

section Files

variable {path : String} {data : Json} {node : FileNode} {vs : List Json} {objects : List Manifest}
  {e : RenderError}

/-- The values of the documents of a rendered template, and whether the reading of them failed. A
text of white space has none. -/
def renderedValues (rendered : List Char) : List Json × Bool :=
  if Text.trim rendered = [] then ([], false) else Yaml.values rendered

/-- A document that a template may have: nothing or an object. -/
def IsDocument (v : Json) : Prop := v = .null ∨ ∃ fields, v = .object fields

/-- A file that gives objects: its template is rendered, all of its documents are read, and the ones
that are something are the objects. -/
inductive RendersTo (data : Json) : FileNode → List Manifest → Prop where
  | intro {source rendered : List Char} {vs : List Json} {objects : List Manifest}
      (hrender : Template.render source data = .ok rendered)
      (hread : renderedValues rendered = (vs, false))
      (hobjects : vs.filter (· ≠ .null) = objects.map Manifest.toJson) :
      RendersTo data (.text source) objects

inductive FailsWith (path : String) (data : Json) : FileNode → RenderError → Prop where
  | unreadable : FailsWith path data .binary (.file path .invalidData)
  | template {source : List Char} {kind : Template.ErrorKind}
      (hrender : Template.render source data = .error kind) :
      FailsWith path data (.text source) (.template path kind)
  | document {source rendered : List Char} {before after : List Json} {v : Json} {failed : Bool}
      (hrender : Template.render source data = .ok rendered)
      (hread : renderedValues rendered = (before ++ v :: after, failed))
      (hbefore : ∀ w ∈ before, IsDocument w) (hv : ¬IsDocument v) :
      FailsWith path data (.text source) (.object path (.notAnObject v.kindName))
  | yaml {source rendered : List Char} {vs : List Json}
      (hrender : Template.render source data = .ok rendered)
      (hread : renderedValues rendered = (vs, true)) (hvs : ∀ w ∈ vs, IsDocument w) :
      FailsWith path data (.text source) (.yaml path)

theorem objectsOf_object (path : String) (fields : Fields Json) (vs : List Json) :
    objectsOf path (.object fields :: vs) = (objectsOf path vs).map (⟨fields⟩ :: ·) := by
  rw [objectsOf, if_neg (by simp)]
  cases objectsOf path vs <;> rfl

theorem objectsOf_of_not_isDocument {v : Json} (h : ¬IsDocument v) (path : String)
    (vs : List Json) :
    objectsOf path (v :: vs) = .error (.object path (.notAnObject v.kindName)) := by
  have hnull : v ≠ .null := fun hnull => h (.inl hnull)
  rw [objectsOf, if_neg hnull]
  cases v with
  | object fields => exact absurd (.inr ⟨fields, rfl⟩) h
  | _ => rfl

theorem objectsOf_append (h : vs.filter (· ≠ .null) = objects.map Manifest.toJson)
    (path : String) (rest : List Json) :
    objectsOf path (vs ++ rest) = (objectsOf path rest).map (objects ++ ·) := by
  induction vs generalizing objects with
  | nil =>
    rw [List.map_eq_nil_iff.mp h.symm, List.nil_append]
    cases objectsOf path rest <;> rfl
  | cons v vs ih =>
    by_cases hv : v = .null
    · subst hv
      exact ih (by simpa using h)
    · rw [List.filter_cons_of_pos (by simpa using hv)] at h
      cases objects with
      | nil => cases h
      | cons object objects =>
        obtain ⟨rfl, hrest⟩ := List.cons.inj h
        rw [Manifest.toJson, List.cons_append, objectsOf_object, ih hrest]
        cases objectsOf path rest <;> rfl

theorem exists_objects (h : ∀ v ∈ vs, IsDocument v) :
    ∃ objects : List Manifest, vs.filter (· ≠ .null) = objects.map Manifest.toJson := by
  induction vs with
  | nil => exact ⟨[], rfl⟩
  | cons v vs ih =>
    obtain ⟨hv, hrest⟩ := List.forall_mem_cons.mp h
    obtain ⟨objects, hobjects⟩ := ih hrest
    obtain rfl | ⟨fields, rfl⟩ := hv
    · exact ⟨objects, hobjects⟩
    · refine ⟨⟨fields⟩ :: objects, ?_⟩
      rw [List.filter_cons_of_pos (by simp), hobjects]
      rfl

theorem isDocument_of_filter (h : vs.filter (· ≠ .null) = objects.map Manifest.toJson) :
    ∀ v ∈ vs, IsDocument v := by
  intro v hv
  by_cases hnull : v = .null
  · exact .inl hnull
  · have hmem : v ∈ objects.map Manifest.toJson :=
      h ▸ List.mem_filter.mpr ⟨hv, by simpa using hnull⟩
    obtain ⟨object, -, rfl⟩ := List.mem_map.mp hmem
    exact .inr ⟨object.fields, rfl⟩

theorem areDocuments_or (vs : List Json) : (∀ v ∈ vs, IsDocument v) ∨
    ∃ before v after, vs = before ++ v :: after ∧ (∀ w ∈ before, IsDocument w) ∧
      ¬IsDocument v := by
  induction vs with
  | nil => exact .inl nofun
  | cons v vs ih =>
    by_cases hv : IsDocument v
    · obtain hvs | ⟨before, w, after, rfl, hbefore, hw⟩ := ih
      · exact .inl (List.forall_mem_cons.mpr ⟨hv, hvs⟩)
      · exact .inr ⟨v :: before, w, after, rfl, List.forall_mem_cons.mpr ⟨hv, hbefore⟩, hw⟩
    · exact .inr ⟨[], v, vs, rfl, nofun, hv⟩

theorem objectsOf_eq_ok : objectsOf path vs = .ok objects ↔
    vs.filter (· ≠ .null) = objects.map Manifest.toJson := by
  have hall {vs : List Json} {objects : List Manifest}
      (h : vs.filter (· ≠ .null) = objects.map Manifest.toJson) :
      objectsOf path vs = .ok objects := by
    have happend := objectsOf_append h path []
    rw [List.append_nil] at happend
    exact happend.trans (congrArg _ (List.append_nil objects))
  refine ⟨fun h => ?_, hall⟩
  obtain hvs | ⟨before, v, after, rfl, hbefore, hv⟩ := areDocuments_or vs
  · obtain ⟨found, hfound⟩ := exists_objects hvs
    rwa [Except.ok.inj (h.symm.trans (hall hfound))]
  · obtain ⟨found, hfound⟩ := exists_objects hbefore
    rw [objectsOf_append hfound, objectsOf_of_not_isDocument hv] at h
    cases h

theorem objectsOf_eq_error : objectsOf path vs = .error e ↔
    ∃ before v after, vs = before ++ v :: after ∧ (∀ w ∈ before, IsDocument w) ∧
      ¬IsDocument v ∧ e = .object path (.notAnObject v.kindName) := by
  have hfirst {before after : List Json} {v : Json} (hbefore : ∀ w ∈ before, IsDocument w)
      (hv : ¬IsDocument v) : objectsOf path (before ++ v :: after) =
        .error (.object path (.notAnObject v.kindName)) := by
    obtain ⟨found, hfound⟩ := exists_objects hbefore
    rw [objectsOf_append hfound, objectsOf_of_not_isDocument hv]
    rfl
  constructor
  · intro h
    obtain hvs | ⟨before, v, after, rfl, hbefore, hv⟩ := areDocuments_or vs
    · obtain ⟨found, hfound⟩ := exists_objects hvs
      cases h.symm.trans (objectsOf_eq_ok.mpr hfound)
    · exact ⟨before, v, after, rfl, hbefore, hv,
        Except.error.inj (h.symm.trans (hfirst hbefore hv))⟩
  · rintro ⟨before, v, after, rfl, hbefore, hv, rfl⟩
    exact hfirst hbefore hv

theorem parseDocuments_eq (path : String) (rendered : List Char) :
    parseDocuments path rendered = objectsOf path (renderedValues rendered).1 >>= fun objects =>
      if (renderedValues rendered).2 then .error (.yaml path) else .ok objects := by
  rw [parseDocuments, renderedValues]
  by_cases h : Text.trim rendered = []
  · simp [h, objectsOf, bind, Except.bind]
  · rw [if_neg (by simpa using h), if_neg h]

theorem parseDocuments_eq_ok {rendered : List Char} : parseDocuments path rendered = .ok objects ↔
    ∃ vs, renderedValues rendered = (vs, false) ∧
      vs.filter (· ≠ .null) = objects.map Manifest.toJson := by
  simp only [parseDocuments_eq, bind_eq_ok, objectsOf_eq_ok]
  constructor
  · rintro ⟨found, hfound, hread⟩
    split at hread
    · cases hread
    · next hfailed =>
      cases hread
      exact ⟨_, Prod.ext rfl (Bool.eq_false_iff.mpr hfailed), hfound⟩
  · rintro ⟨vs, hread, hobjects⟩
    exact ⟨objects, by rw [hread, hobjects], by rw [hread]; rfl⟩

theorem renderFile_text (path : String) (source : List Char) (data : Json) :
    renderFile path (.text source) data =
      (Template.render source data).mapError (.template path) >>= parseDocuments path := rfl

theorem renderFile_eq_ok (hnode : node.isDirectory = false) :
    renderFile path node data = .ok objects ↔ RendersTo data node objects := by
  cases node with
  | directory entries => cases hnode
  | binary => exact ⟨nofun, nofun⟩
  | text source =>
    rw [renderFile_text, bind_eq_ok]
    simp only [mapError_eq_ok, parseDocuments_eq_ok]
    constructor
    · rintro ⟨rendered, hrender, vs, hread, hobjects⟩
      exact .intro hrender hread hobjects
    · rintro ⟨hrender, hread, hobjects⟩
      exact ⟨_, hrender, _, hread, hobjects⟩

theorem renderFile_eq_error (hnode : node.isDirectory = false) :
    renderFile path node data = .error e ↔ FailsWith path data node e := by
  cases node with
  | directory entries => cases hnode
  | binary =>
    constructor
    · rintro ⟨⟩
      exact .unreadable
    · rintro ⟨⟩
      rfl
  | text source =>
    rw [renderFile_text, bind_eq_error]
    simp only [mapError_eq_ok, mapError_eq_error, parseDocuments_eq, bind_eq_error, objectsOf_eq_ok,
      objectsOf_eq_error]
    constructor
    · rintro (⟨kind, hkind, rfl⟩ | ⟨rendered, hrender, hdocuments⟩)
      · exact .template hkind
      · obtain ⟨before, v, after, hsplit, hbefore, hv, rfl⟩ | ⟨found, hfound, hread⟩ := hdocuments
        · exact .document hrender (Prod.ext hsplit rfl) hbefore hv
        · split at hread
          · next hfailed =>
            cases hread
            exact .yaml hrender (Prod.ext rfl hfailed) (isDocument_of_filter hfound)
          · cases hread
    · intro h
      cases h with
      | template hrender => exact .inl ⟨_, hrender, rfl⟩
      | document hrender hread hbefore hv =>
        exact .inr ⟨_, hrender, .inl ⟨_, _, _, by rw [hread], hbefore, hv, rfl⟩⟩
      | yaml hrender hread hvs =>
        obtain ⟨found, hfound⟩ := exists_objects hvs
        exact .inr ⟨_, hrender, .inr ⟨found, by rw [hread, hfound], by rw [hread]; rfl⟩⟩

end Files

section Directories

variable {directory : String} {data : Json} {selection : List (String × FileNode)}
  {objects : List Manifest} {e : RenderError}

theorem renderFiles_eq_ok (hnodes : ∀ file ∈ selection, file.2.isDirectory = false) :
    renderFiles directory data selection = .ok objects ↔
      ∃ parts, List.Forall₂ (fun file part => RendersTo data file.2 part) selection parts ∧
        objects = parts.flatten := by
  induction selection generalizing objects with
  | nil =>
    constructor
    · rintro ⟨⟩
      exact ⟨[], .nil, rfl⟩
    · rintro ⟨_, ⟨⟩, rfl⟩
      rfl
  | cons file rest ih =>
    obtain ⟨hfile, hrest⟩ := List.forall_mem_cons.mp hnodes
    rw [renderFiles]
    simp only [bind_eq_ok, renderFile_eq_ok hfile, ih hrest]
    constructor
    · rintro ⟨part, hpart, _, ⟨parts, hparts, rfl⟩, ⟨⟩⟩
      exact ⟨part :: parts, .cons hpart hparts, rfl⟩
    · rintro ⟨_, hparts, rfl⟩
      cases hparts with
      | cons hpart hparts => exact ⟨_, hpart, _, ⟨_, hparts, rfl⟩, rfl⟩

theorem renderFiles_eq_error (hnodes : ∀ file ∈ selection, file.2.isDirectory = false) :
    renderFiles directory data selection = .error e ↔
      ∃ before file after, selection = before ++ file :: after ∧
        (∀ earlier ∈ before, ∃ part, RendersTo data earlier.2 part) ∧
        FailsWith (joinPath directory file.1) data file.2 e := by
  induction selection with
  | nil => simp [renderFiles]
  | cons first rest ih =>
    obtain ⟨hfirst, hrest⟩ := List.forall_mem_cons.mp hnodes
    rw [renderFiles]
    simp only [bind_eq_error, renderFile_eq_error hfirst, renderFile_eq_ok hfirst, ih hrest]
    constructor
    · rintro (hfails | ⟨part, hpart, hlater⟩)
      · exact ⟨[], first, rest, rfl, nofun, hfails⟩
      · obtain ⟨before, file, after, rfl, hbefore, hfails⟩ | ⟨_, _, ⟨⟩⟩ := hlater
        exact ⟨first :: before, file, after, rfl,
          List.forall_mem_cons.mpr ⟨⟨part, hpart⟩, hbefore⟩, hfails⟩
    · rintro ⟨before, file, after, hsplit, hbefore, hfails⟩
      cases before with
      | nil =>
        cases hsplit
        exact .inl hfails
      | cons earlier before =>
        cases hsplit
        obtain ⟨⟨part, hpart⟩, hbefore⟩ := List.forall_mem_cons.mp hbefore
        exact .inr ⟨part, hpart, .inl ⟨before, file, after, rfl, hbefore, hfails⟩⟩

theorem render_of_list {files : Files} {entries : List (String × FileNode)}
    (h : files.list directory = .ok entries) (data : Json) :
    render files directory data = renderFiles directory data (templateFiles entries) := by
  rw [render, h]
  rfl

/-- What a directory renders to. The template files in it, which are in one order only, give the
objects of all of them, or the error of the first one that fails. Another directory with the same
template files renders to the same, however it is listed and whatever else is in it. -/
theorem render_outcomes {files : Files} {entries : List (String × FileNode)}
    (hlist : files.list directory = .ok entries) (hnames : (entries.map Prod.fst).Nodup)
    (data : Json) :
    (∃! selection, IsSelection entries selection) ∧
      (∀ selection, IsSelection entries selection →
        (∀ objects, render files directory data = .ok objects ↔
          ∃ parts, List.Forall₂ (fun file part => RendersTo data file.2 part) selection parts ∧
            objects = parts.flatten) ∧
        ∀ e, render files directory data = .error e ↔
          ∃ before file after, selection = before ++ file :: after ∧
            (∀ earlier ∈ before, ∃ part, RendersTo data earlier.2 part) ∧
            FailsWith (joinPath directory file.1) data file.2 e) ∧
      ∀ files' : Files, ∀ entries', files'.list directory = .ok entries' →
        (entries'.map Prod.fst).Nodup →
        (∀ entry, IsTemplate entry → (entry ∈ entries ↔ entry ∈ entries')) →
        render files' directory data = render files directory data := by
  have hselection := isSelection_templateFiles hnames
  refine ⟨⟨_, hselection, fun other hother => hother.eq hselection⟩, ?_, ?_⟩
  · intro selection h
    have hnodes : ∀ file ∈ selection, file.2.isDirectory = false := fun file hfile =>
      ((h.mem_iff file).mp hfile).2.2
    rw [render_of_list hlist, ← h.eq hselection]
    exact ⟨fun _ => renderFiles_eq_ok hnodes, fun _ => renderFiles_eq_error hnodes⟩
  · intro files' entries' hlist' hnames' hsame
    have hsame' := hselection.eq_of_templates (isSelection_templateFiles hnames') hsame
    rw [render_of_list hlist, render_of_list hlist', hsame']

def twoDocuments : List Char := ['a', ':', ' ', 'b', '\n', '-', '-', '-']

def twoTemplates : List (String × FileNode) :=
  [("a.json", .text [' ']), ("b.yaml", .text twoDocuments)]

def strayEntries : List (String × FileNode) :=
  [(".yaml", .binary)] ++ twoTemplates.reverse ++
    [("x.yaml", .directory [("c.yaml", .binary)]), ("b.yaml~", .binary)]

def filesWith (entries : List (String × FileNode)) : Files :=
  ⟨.directory [("d", .directory entries)], []⟩

theorem list_filesWith (entries : List (String × FileNode)) :
    (filesWith entries).list "d" = .ok entries := by
  rfl

theorem render_outcomes_stray :
    IsSelection strayEntries twoTemplates ∧
      render (filesWith strayEntries) "d" .null = .ok [⟨[("a", .string "b")]⟩] ∧
      render (filesWith twoTemplates) "d" .null = render (filesWith strayEntries) "d" .null := by
  have hnames : (strayEntries.map Prod.fst).Nodup := by decide
  have hselection : IsSelection strayEntries twoTemplates := isSelection_templateFiles hnames
  obtain ⟨-, hrender, hother⟩ := render_outcomes (list_filesWith strayEntries) hnames .null
  refine ⟨hselection, ((hrender _ hselection).1 _).mpr ⟨[[], [⟨[("a", .string "b")]⟩]], ?_, rfl⟩,
    hother _ _ (list_filesWith twoTemplates) (by decide) fun entry hentry => ?_⟩
  · have hblank : RendersTo .null (.text [' ']) [] := .intro (toOption_eq_some.mp rfl) rfl rfl
    have hrendered : Template.render twoDocuments .null = .ok twoDocuments :=
      toOption_eq_some.mp (by decide +kernel)
    have hread : renderedValues twoDocuments = ([.object [("a", .string "b")], .null], false) := by
      decide +kernel
    exact .cons hblank (.cons (.intro hrendered hread rfl) .nil)
  · rw [hselection.mem_iff]
    exact (and_iff_left hentry).symm

end Directories

end TemplateDirectory

end OverlayConfig
