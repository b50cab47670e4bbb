import Mathlib
import Ebpf.Proofs.Elf.Fields
import Ebpf.Proofs.Program.Blocks

/-!
# Looking a section up and listing the sections

Looking up and listing go through the same headers with the same name table, but a name that cannot
be read is passed over by the one and ends the other. They agree all the same: a section is reported
as missing exactly if the list is there and does not have it.

* `File.FirstNamed` is the header that a name leads to. `File.find?_eq_some_iff` and
  `File.find?_eq_none_iff` say that this header is found, and when there is none.
* `File.sectionNames_eq_ok_iff`: there is a list exactly if every name can be read.
* `File.find?_eq_none_iff_notMem`: where there is a list, a name that is not in it leads nowhere,
  and every other name leads to a header.
* `Program.ofSection_missing_iff_not_listed` puts this together for the bytes of any file.
-/

namespace Ebpf

namespace Elf
namespace File

variable {file : File} {name : String}

/-! ## Looking up -/

/-- The header is the first one whose name can be read and is the given one. -/
def FirstNamed (file : File) (name : String) (header : SectionHeader) : Prop :=
  ∃ before after names,
    file.namedSections = .ok (some (before ++ header :: after, names)) ∧
      nameAt names header.name = .ok name ∧ ∀ h ∈ before, nameAt names h.name ≠ .ok name

/-- What is compared when a name is looked up: a name that cannot be read is no name. -/
theorem toOption_nameAt_beq_iff {names : List Byte} {offset : Nat} :
    ((nameAt names offset).toOption == some name) = true ↔ nameAt names offset = .ok name := by
  cases nameAt names offset with
  | error e => simp [Except.toOption]
  | ok found => simp [Except.toOption]

/-- **The first header with a name is found.** -/
theorem find?_eq_some_iff {header : SectionHeader} :
    file.find? name = .ok (some header) ↔ file.FirstNamed name header := by
  rw [find?, bind_eq_ok_iff]
  constructor
  · rintro ⟨found, hfound, h⟩
    cases found with
    | none => cases h
    | some found =>
      obtain ⟨headers, names⟩ := found
      obtain ⟨hname, before, after, rfl, hbefore⟩ :=
        List.find?_eq_some_iff_append.1 (Except.ok.inj h)
      refine ⟨before, after, names, hfound, toOption_nameAt_beq_iff.1 hname, ?_⟩
      intro h hh
      have hother := hbefore h hh
      rwa [Bool.not_eq_true', ← Bool.not_eq_true, toOption_nameAt_beq_iff] at hother
  · rintro ⟨before, after, names, hfound, hname, hbefore⟩
    refine ⟨_, hfound, congrArg Except.ok ?_⟩
    refine List.find?_eq_some_iff_append.2 ⟨toOption_nameAt_beq_iff.2 hname, before, after, rfl, ?_⟩
    intro h hh
    rw [Bool.not_eq_true', ← Bool.not_eq_true, toOption_nameAt_beq_iff]
    exact hbefore h hh

/-- No header is found exactly if there are no headers with names, or none of them has this one. -/
theorem find?_eq_none_iff :
    file.find? name = .ok none ↔
      file.namedSections = .ok none ∨
        ∃ headers names, file.namedSections = .ok (some (headers, names)) ∧
          ∀ h ∈ headers, nameAt names h.name ≠ .ok name := by
  rw [find?, bind_eq_ok_iff]
  constructor
  · rintro ⟨found, hfound, h⟩
    cases found with
    | none => exact Or.inl hfound
    | some found =>
      obtain ⟨headers, names⟩ := found
      refine Or.inr ⟨headers, names, hfound, ?_⟩
      intro header hheader
      rw [Ne, ← toOption_nameAt_beq_iff]
      exact List.find?_eq_none.1 (Except.ok.inj h) header hheader
  · rintro (hfound | ⟨headers, names, hfound, hnone⟩)
    · exact ⟨none, hfound, rfl⟩
    · refine ⟨_, hfound, congrArg Except.ok (List.find?_eq_none.2 ?_)⟩
      intro header hheader
      rw [toOption_nameAt_beq_iff]
      exact hnone header hheader

/-! ## Listing -/

/-- **There is a list exactly if every name can be read**, and then it has those that are not
empty. -/
theorem sectionNames_eq_ok_iff {listed : List String} :
    file.sectionNames = .ok listed ↔
      file.namedSections = .ok none ∧ listed = [] ∨
        ∃ (headers : List SectionHeader) (names : List Byte) (all : List String),
          file.namedSections = .ok (some (headers, names)) ∧
            headers.map (fun h => nameAt names h.name) = all.map .ok ∧
            listed = all.filter (· ≠ "") := by
  rw [sectionNames, bind_eq_ok_iff]
  constructor
  · rintro ⟨found, hfound, h⟩
    cases found with
    | none =>
      cases h
      exact Or.inl ⟨hfound, rfl⟩
    | some found =>
      obtain ⟨headers, names⟩ := found
      obtain ⟨all, hall, h⟩ := bind_eq_ok_iff.1 h
      cases h
      exact Or.inr ⟨headers, names, all, hfound, mapM_eq_ok_iff.1 hall, rfl⟩
  · rintro (⟨hfound, rfl⟩ | ⟨headers, names, all, hfound, hall, rfl⟩)
    · exact ⟨none, hfound, rfl⟩
    · exact ⟨_, hfound, bind_eq_ok_iff.2 ⟨all, mapM_eq_ok_iff.2 hall, rfl⟩⟩

/-! ## Both together -/

/-- Where there is a list, looking up does not fail. -/
theorem exists_find?_of_sectionNames {listed : List String} (h : file.sectionNames = .ok listed)
    (name : String) : ∃ found, file.find? name = .ok found := by
  obtain ⟨sections, hsections, -⟩ := bind_eq_ok_iff.1 h
  cases sections with
  | none => exact ⟨none, bind_eq_ok_iff.2 ⟨none, hsections, rfl⟩⟩
  | some sections => exact ⟨_, bind_eq_ok_iff.2 ⟨some sections, hsections, rfl⟩⟩

/-- **Where there is a list, a name leads nowhere exactly if it is not in the list.** -/
theorem find?_eq_none_iff_notMem {listed : List String} (h : file.sectionNames = .ok listed)
    (hname : name ≠ "") : file.find? name = .ok none ↔ name ∉ listed := by
  rw [find?_eq_none_iff]
  obtain ⟨hnone, rfl⟩ | ⟨headers, names, all, hsome, hall, rfl⟩ := sectionNames_eq_ok_iff.1 h
  · simp [hnone]
  · have hmem : name ∈ all ↔ ∃ header ∈ headers, nameAt names header.name = .ok name := by
      have hread : Except.ok name ∈ headers.map (fun h => nameAt names h.name) ↔ name ∈ all := by
        rw [hall]
        simp
      rw [← hread, List.mem_map]
    simp [hsome, hname, hmem]

/-- A name in the list leads to a header. -/
theorem exists_firstNamed_of_mem {listed : List String} (h : file.sectionNames = .ok listed)
    (hname : name ≠ "") (hmem : name ∈ listed) : ∃ header, file.FirstNamed name header := by
  obtain ⟨found, hfound⟩ := exists_find?_of_sectionNames h name
  cases found with
  | none => exact absurd hmem ((find?_eq_none_iff_notMem h hname).1 hfound)
  | some header => exact ⟨header, find?_eq_some_iff.1 hfound⟩

end File
end Elf

/-! ## Loading a section -/

namespace Program

open Elf (File)

variable {data : List Byte} {name : String}

theorem liftElf_eq_ok_iff {α : Type} {r : Except Elf.Fault α} {x : α} :
    liftElf r = .ok x ↔ r = .ok x := by
  cases r <;> simp [liftElf, Except.mapError]

/-- The fault of a file is never that it lacks a section. -/
theorem liftElf_ne_noSuchSection {α : Type} (r : Except Elf.Fault α) (asked : String)
    (available : List String) : liftElf r ≠ .error (.noSuchSection asked available) := by
  cases r <;> simp [liftElf, Except.mapError]

theorem sectionNames_eq_ok_iff {listed : List String} :
    sectionNames data = .ok listed ↔
      ∃ file, File.parse data = .ok file ∧ file.sectionNames = .ok listed := by
  rw [sectionNames, liftElf_eq_ok_iff, bind_eq_ok_iff]

/-- Bytes never lack a section. -/
theorem ofBytes_ne_noSuchSection (bytes : List Byte) (asked : String) (available : List String) :
    ofBytes bytes ≠ .error (.noSuchSection asked available) := by
  intro h
  unfold ofBytes at h
  split at h
  · obtain ⟨is, w, -, -, he⟩ := ofWords_eq_error_iff.1 h
    cases he
  · cases h

/-- What a section that has been found is loaded as: its contents, if these can be read. -/
theorem ofSection_of_firstNamed {file : File} {header : Elf.SectionHeader}
    (hparse : File.parse data = .ok file) (hfirst : file.FirstNamed name header) :
    ofSection data name = liftElf (file.contents header) >>= ofBytes := by
  have hfind := File.find?_eq_some_iff.2 hfirst
  simp only [ofSection, hparse, hfind, liftElf, Except.mapError, Elf.ok_bind]

/-- A section is reported as missing where no header is found and all names are there to be
reported. -/
theorem ofSection_eq_noSuchSection_iff {asked : String} {available : List String} :
    ofSection data name = .error (.noSuchSection asked available) ↔
      asked = name ∧ ∃ file, File.parse data = .ok file ∧ file.find? name = .ok none ∧
        file.sectionNames = .ok available := by
  constructor
  · intro h
    rcases bind_eq_error_iff.1 h with h | ⟨file, hparse, h⟩
    · exact absurd h (liftElf_ne_noSuchSection _ asked available)
    rcases bind_eq_error_iff.1 h with h | ⟨found, hfind, h⟩
    · exact absurd h (liftElf_ne_noSuchSection _ asked available)
    cases found with
    | some header =>
      rcases bind_eq_error_iff.1 h with h | ⟨bytes, -, h⟩
      · exact absurd h (liftElf_ne_noSuchSection _ asked available)
      · exact absurd h (ofBytes_ne_noSuchSection bytes asked available)
    | none =>
      rcases bind_eq_error_iff.1 h with h | ⟨names, hnames, h⟩
      · exact absurd h (liftElf_ne_noSuchSection _ asked available)
      · cases h
        exact ⟨rfl, file, liftElf_eq_ok_iff.1 hparse, liftElf_eq_ok_iff.1 hfind,
          liftElf_eq_ok_iff.1 hnames⟩
  · rintro ⟨rfl, file, hparse, hfind, hnames⟩
    simp only [ofSection, hparse, hfind, hnames, liftElf, Except.mapError, Elf.ok_bind]

/-- **A section is reported as missing exactly if the list of sections is there and does not have
it**, and the report has the name that was asked for and the whole list. So a section in the list is
never reported as missing: its name leads to a header, the first one that has it, and what comes of
it is the fault of reading the contents of that section, or what these contents are loaded as. -/
theorem ofSection_missing_iff_not_listed (data : List Byte) {name : String} (hname : name ≠ "") :
    (∀ asked available, ofSection data name = .error (.noSuchSection asked available) ↔
      asked = name ∧ sectionNames data = .ok available ∧ name ∉ available) ∧
    (∀ listed, sectionNames data = .ok listed → name ∈ listed →
      (∀ asked available, ofSection data name ≠ .error (.noSuchSection asked available)) ∧
      ∃ file header, File.parse data = .ok file ∧ file.FirstNamed name header ∧
        ((∃ e, file.contents header = .error e ∧ ofSection data name = .error (.elf e)) ∨
          ∃ bytes, file.contents header = .ok bytes ∧ ofSection data name = ofBytes bytes)) := by
  have hmissing : ∀ asked available,
      ofSection data name = .error (.noSuchSection asked available) ↔
        asked = name ∧ sectionNames data = .ok available ∧ name ∉ available := by
    intro asked available
    rw [ofSection_eq_noSuchSection_iff, sectionNames_eq_ok_iff]
    constructor
    · rintro ⟨rfl, file, hparse, hfind, hnames⟩
      exact ⟨rfl, ⟨file, hparse, hnames⟩, (File.find?_eq_none_iff_notMem hnames hname).1 hfind⟩
    · rintro ⟨rfl, ⟨file, hparse, hnames⟩, hnot⟩
      exact ⟨rfl, file, hparse, (File.find?_eq_none_iff_notMem hnames hname).2 hnot, hnames⟩
  refine ⟨hmissing, fun listed hlisted hmem => ⟨?_, ?_⟩⟩
  · intro asked available h
    obtain ⟨-, havailable, hnot⟩ := (hmissing asked available).1 h
    rw [hlisted] at havailable
    cases havailable
    exact hnot hmem
  · obtain ⟨file, hparse, hnames⟩ := sectionNames_eq_ok_iff.1 hlisted
    obtain ⟨header, hfirst⟩ := File.exists_firstNamed_of_mem hnames hname hmem
    refine ⟨file, header, hparse, hfirst, ?_⟩
    rw [ofSection_of_firstNamed hparse hfirst]
    cases hcontents : file.contents header with
    | error e => exact Or.inl ⟨e, rfl, rfl⟩
    | ok bytes => exact Or.inr ⟨bytes, rfl, rfl⟩

/-- A file with one section and the name table. The name of the section starts at byte 73. -/
def oneSection : List Byte := Elf.image .little [⟨"xdp", [0x95, 0, 0, 0, 0, 0, 0, 0]⟩]

/-- Of a file with one section, another one is reported as missing, and the one that is there is
not. As soon as its name cannot be read there is no list, and nothing is reported as missing. -/
theorem missing_section_of_oneSection :
    ofSection oneSection "maps" = .error (.noSuchSection "maps" ["xdp", ".shstrtab"]) ∧
    (∀ asked available, ofSection oneSection "xdp" ≠ .error (.noSuchSection asked available)) ∧
    (∀ asked available,
      ofSection (oneSection.set 73 0xff) "maps" ≠ .error (.noSuchSection asked available)) := by
  have hlist : sectionNames oneSection = .ok ["xdp", ".shstrtab"] := by decide +kernel
  have hbroken : sectionNames (oneSection.set 73 0xff) = .error (.elf (.badName ⟨0, some 1⟩)) := by
    decide +kernel
  have hmaps : ("maps" : String) ≠ "" := by decide
  refine ⟨?_, ?_, ?_⟩
  · exact ((ofSection_missing_iff_not_listed oneSection hmaps).1 _ _).2 ⟨rfl, hlist, by decide⟩
  · exact ((ofSection_missing_iff_not_listed oneSection (by decide)).2 _ hlist (by decide)).1
  · intro asked available h
    obtain ⟨-, hnames, -⟩ := ((ofSection_missing_iff_not_listed _ hmaps).1 asked available).1 h
    rw [hbroken] at hnames
    cases hnames

end Program
end Ebpf
