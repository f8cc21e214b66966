import Phrasebook.Proofs.Loader.Answers

/-!
Which locales a load of all finds, and which of them it leaves out: those of which a file is listed but
cannot be opened. A locale is found by the names that fit it, and so are its files, except that the name
of the locale alone is none of them where it leads nowhere.
-/

set_option autoImplicit false
set_option relaxedAutoImplicit false

namespace Phrasebook

namespace Directory

variable {directory : Text} {d : Directory} {locale : Locale} {name : Text} {content : FileContent}

private theorem isThere_iff : isThere content = true ↔ content ≠ .dangling := by
  cases content with
  | dangling => exact iff_of_false nofun fun h => h rfl
  | _ => exact iff_of_true rfl nofun

theorem mem_keys_of_get? (h : d.get? name = some content) : name ∈ d.keys :=
  List.mem_map.mpr ⟨(name, content), Dict.mem_entries.mpr h, rfl⟩

/-- A locale that has files, all of which can be opened. -/
structure Opens [Globbing] (d : Directory) (locale : Locale) : Prop where
  found : ∃ name content, d.get? name = some content ∧ belongsTo locale name content = true
  isThere : ∀ name content, d.get? name = some content → belongsTo locale name content = true →
    isThere content = true

section

variable [Globbing]

private theorem opens_iff : d.Opens locale ↔
    (∃ file ∈ d.entries, belongsTo locale file.1 file.2 = true) ∧
      ∀ file ∈ d.entries, belongsTo locale file.1 file.2 = true → isThere file.2 = true := by
  constructor
  · rintro ⟨⟨name, content, hcontent, hbelongs⟩, hthere⟩
    exact ⟨⟨(name, content), Dict.mem_entries.mpr hcontent, hbelongs⟩,
      fun file hfile => hthere file.1 file.2 (Dict.mem_entries.mp hfile)⟩
  · rintro ⟨⟨file, hfile, hbelongs⟩, hthere⟩
    exact ⟨⟨file.1, file.2, Dict.mem_entries.mp hfile, hbelongs⟩,
      fun name content hcontent => hthere (name, content) (Dict.mem_entries.mpr hcontent)⟩

theorem opens_iff_fits (hlists : Globbing.ListsAll) : d.Opens locale ↔
    (∃ name content, d.get? name = some content ∧ Fits locale name) ∧
      ∀ name content, d.get? name = some content → Fits locale name → isThere content = true := by
  have hopens : d.Opens locale ↔
      (∃ name content, d.get? name = some content ∧ belongsTo locale name content = true) ∧
        ∀ name content, d.get? name = some content → belongsTo locale name content = true →
          isThere content = true :=
    ⟨fun h => ⟨h.found, h.isThere⟩, fun h => ⟨h.1, h.2⟩⟩
  simpa only [belongsTo_iff_fits hlists] using hopens

instance : Decidable (d.Opens locale) := decidable_of_iff _ opens_iff.symm

private theorem Opens.mem_locales (h : d.Opens locale) : locale ∈ d.locales := by
  obtain ⟨name, content, hcontent, hbelongs⟩ := h.found
  exact Directory.mem_locales.mpr ⟨name, mem_keys_of_get? hcontent, (belongsTo_iff.mp hbelongs).1⟩

end

private theorem isThere_of_read {path : Text} {document : Value} (h : content.read path = .ok document) :
    isThere content = true := by
  cases content with
  | dangling => cases h
  | _ => rfl

private theorem read_error_cases {path : Text} {fault : Fault} (h : content.read path = .error fault) :
    (content = .dangling ∧ fault = .vanished path) ∨
      fault = .unparsable path ∨ fault = .undecodable ∨ ∃ cause, fault = .unreadable cause := by
  cases content with
  | dangling =>
    cases h
    exact Or.inl ⟨rfl, rfl⟩
  | document value =>
    unfold FileContent.read at h
    cases h
  | bytes bytes =>
    right
    unfold FileContent.read at h
    dsimp only at h
    generalize Yaml.load bytes = outcome at h
    rcases outcome with (_ | _ | _ | cause) | (_ | graph) <;> cases h
    · exact Or.inl rfl
    · exact Or.inl rfl
    · exact Or.inr (Or.inl rfl)
    · exact Or.inr (Or.inr ⟨cause, rfl⟩)

theorem Makes.opens [Globbing] {catalog : Catalog} (h : d.Makes directory locale catalog) : d.Opens locale := by
  obtain ⟨documents, hne, -, hnames, hread, -⟩ := h
  refine ⟨?_, ?_⟩
  · obtain ⟨entry, hentry⟩ := List.exists_mem_of_ne_nil documents hne
    obtain ⟨content, hcontent⟩ := (hnames entry.1).mp (List.mem_map_of_mem hentry)
    exact ⟨entry.1, content, hcontent⟩
  · intro name content hcontent hbelongs
    obtain ⟨entry, hentry, rfl⟩ := List.mem_map.mp ((hnames name).mpr ⟨content, hcontent, hbelongs⟩)
    obtain ⟨content', hcontent', hok⟩ := hread entry.1 entry.2 hentry
    rw [hcontent] at hcontent'
    exact isThere_of_read (Option.some.inj hcontent' ▸ hok)

end Directory

section

variable {ε α : Type}

private theorem editsOfAll_eq_error {f : α → Except ε (List Edit)} {as : List α} {e : ε}
    (h : editsOfAll f as = .error e) : ∃ a ∈ as, f a = .error e := by
  induction as with
  | nil => cases h
  | cons a as ih =>
    rw [editsOfAll] at h
    cases hfirst : f a with
    | error e' =>
      rw [hfirst] at h
      cases h
      exact ⟨a, List.mem_cons_self, hfirst⟩
    | ok es =>
      cases hmore : editsOfAll f as with
      | error e' =>
        rw [hfirst, hmore] at h
        cases h
        obtain ⟨b, hb, hfault⟩ := ih hmore
        exact ⟨b, List.mem_cons_of_mem a hb, hfault⟩
      | ok es' =>
        rw [hfirst, hmore] at h
        cases h

end

namespace FileLoader

variable [Globbing] {directory : Text} {disk : Directory} {locale : Locale} {loader : FileLoader}
  {fault : Fault}

theorem editsOf_error_cases (h : editsOf directory disk locale = .error fault) :
    (disk.namesFor locale = [] ∧ fault = .noFilesFor locale directory) ∨
    (∃ name ∈ disk.namesFor locale, disk.get? name = some .dangling ∧
      fault = .vanished (Directory.pathOf directory name)) ∨
    (∃ path, fault = .unparsable path) ∨ fault = .undecodable ∨ ∃ cause, fault = .unreadable cause := by
  by_cases hempty : (disk.namesFor locale).isEmpty = true
  · rw [editsOf, if_pos hempty] at h
    cases h
    exact Or.inl ⟨List.isEmpty_iff.mp hempty, rfl⟩
  · right
    rw [editsOf, if_neg hempty] at h
    obtain ⟨name, hname, hfault⟩ := editsOfAll_eq_error h
    obtain ⟨content, hcontent, -⟩ := Directory.mem_namesFor.mp hname
    rw [editsOfFile, hcontent, Option.getD_some] at hfault
    cases hread : content.read (Directory.pathOf directory name) with
    | error fault' =>
      rw [hread] at hfault
      cases hfault
      rcases Directory.read_error_cases hread with ⟨rfl, hvanished⟩ | hunparsable | hrest
      · exact Or.inl ⟨name, hname, hcontent, hvanished⟩
      · exact Or.inr (Or.inl ⟨_, hunparsable⟩)
      · exact Or.inr (Or.inr hrest)
    | ok document =>
      rw [hread] at hfault
      change (Document.edits document).mapError Fault.unreadable = .error fault at hfault
      cases hedits : Document.edits document with
      | error cause =>
        rw [hedits] at hfault
        cases hfault
        exact Or.inr (Or.inr (Or.inr ⟨cause, rfl⟩))
      | ok es =>
        rw [hedits] at hfault
        cases hfault

theorem editsOf_of_answer_error (h : loader.answer disk locale = .error fault) :
    editsOf loader.path disk locale = .error fault := by
  rw [answer_of_none (kept?_eq_none_of_error h)] at h
  cases hedits : editsOf loader.path disk locale with
  | error fault' =>
    rw [hedits] at h
    cases h
    rfl
  | ok es =>
    rw [hedits] at h
    cases h

theorem answer_missing_cases (h : loader.answer disk locale = .error fault)
    (hmissing : fault.isMissingFile = true) :
    (disk.namesFor locale = [] ∧ fault = .noFilesFor locale loader.path) ∨
      ∃ name ∈ disk.namesFor locale, disk.get? name = some .dangling ∧
        fault = .vanished (Directory.pathOf loader.path name) := by
  rcases editsOf_error_cases (editsOf_of_answer_error h) with
    hnone | hvanished | ⟨path, rfl⟩ | rfl | ⟨cause, rfl⟩
  · exact Or.inl hnone
  · exact Or.inr hvanished
  all_goals cases hmissing

private theorem not_isMissingFile_of_opens (hopens : disk.Opens locale)
    (h : loader.answer disk locale = .error fault) : fault.isMissingFile = false := by
  by_contra hmissing
  rcases answer_missing_cases h (eq_true_of_ne_false hmissing) with
    ⟨hnone, -⟩ | ⟨name, hname, hdangling, -⟩
  · obtain ⟨name, hname⟩ := hopens.found
    exact List.ne_nil_of_mem (Directory.mem_namesFor.mpr hname) hnone
  · obtain ⟨content, hcontent, hbelongs⟩ := Directory.mem_namesFor.mp hname
    have hthere := Directory.isThere_iff.mp (hopens.isThere name content hcontent hbelongs)
    rw [hcontent] at hdangling
    exact hthere (Option.some.inj hdangling)

/-- What comes of a load of all: there is nothing to load, or the locales that are found are loaded one
after the other. -/
theorem loadAll_cases (disk : Directory) (loader : FileLoader) :
    let all := (loadAll disk).run loader
    (disk.locales = [] ∧ all.value = .error (.noFiles loader.path)) ∨
    disk.locales ≠ [] ∧
      ((∃ result, loader.LoadsEach disk disk.locales ∅ result ∧ all.value = .ok result ∧
        ((loadEach disk disk.locales ∅).run loader).reports ⊆ all.reports) ∨
      ∃ locale fault, loader.StopsAt disk disk.locales ∅ locale fault ∧ all.value = .error fault) := by
  intro all
  obtain ⟨reports, hrun⟩ := exists_loadAllInOrder_run disk disk.locales loader
  rw [loadAllInOrder_locales] at hrun
  simp only [all, hrun]
  by_cases hempty : disk.locales.isEmpty = true
  · rw [if_pos hempty]
    exact Or.inl ⟨List.isEmpty_iff.mp hempty, rfl⟩
  · rw [if_neg hempty]
    refine Or.inr ⟨mt List.isEmpty_iff.mpr hempty, ?_⟩
    rcases loadEach_cases disk disk.locales ∅ loader with ⟨result, hreturns⟩ | ⟨locale, fault, hstops⟩
    · exact Or.inl ⟨result, hreturns, hreturns.value, List.subset_append_right _ _⟩
    · exact Or.inr ⟨locale, fault, hstops, hstops.value⟩

theorem loadAll_contains {result : Dict Locale Catalog}
    (h : ((loadAll disk).run loader).value = .ok result) (hopens : disk.Opens locale) :
    result.contains locale = true := by
  rcases loadAll_cases disk loader with
    ⟨-, hvalue⟩ | ⟨-, ⟨result', hreturns, hvalue, -⟩ | ⟨_, _, -, hvalue⟩⟩
  · rw [h] at hvalue
    cases hvalue
  · obtain rfl := Except.ok.inj (h.symm.trans hvalue)
    have hresult := hreturns.result locale
    rw [found, if_pos hopens.mem_locales] at hresult
    cases hanswer : loader.answer disk locale with
    | error fault =>
      obtain ⟨hmissing, -⟩ := hreturns.missing locale hopens.mem_locales fault hanswer
      rw [not_isMissingFile_of_opens hopens hanswer] at hmissing
      cases hmissing
    | ok catalog =>
      rw [hanswer] at hresult
      rw [Dict.contains]
      cases hget : result.get? locale with
      | none =>
        rw [hget] at hresult
        cases hresult
      | some _ => rfl
  · rw [h] at hvalue
    cases hvalue

end FileLoader

end Phrasebook
