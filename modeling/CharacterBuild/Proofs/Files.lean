import CharacterBuild.Files
import CharacterBuild.Proofs.Text.Split
import Mathlib

namespace CharacterBuild

namespace FilePath

variable {root file : String}

@[mk_iff]
structure IsName (s : String) : Prop where
  ne_nothing : s ≠ ""
  ne_here : s ≠ "."
  ne_above : s ≠ ".."
  noSlash : '/' ∉ s.toList
  noNul : '\x00' ∉ s.toList
  short : s.utf8ByteSize ≤ Files.maxName

instance (s : String) : Decidable (IsName s) :=
  decidable_of_iff _ (isName_iff s).symm

lemma IsName.step_eq (h : IsName file) (d : FilePath) : step d file = d ++ [file] := by
  rw [step, if_neg (by simp [h.ne_nothing, h.ne_here]), if_neg h.ne_above]

lemma IsName.parts_eq (h : IsName file) : parts file = [file] := by
  have hnot : ∀ c ∈ file.toList, decide (c = '/') = false := by
    intro c hc
    exact decide_eq_false fun hslash => h.noSlash (hslash ▸ hc)
  rw [parts, Text.splitOn_of_not hnot, List.map_singleton, String.ofList_toList]

lemma parts_slash (a b : String) : parts (a ++ "/" ++ b) = parts a ++ parts b := by
  have hchars : (a ++ "/" ++ b).toList = a.toList ++ '/' :: b.toList := by simp
  rw [parts, hchars, Text.splitOn_append _ _ (by decide), List.map_append]
  rfl

lemma start_append {a : String} (ha : a ≠ "") (b : String) : start (a ++ b) = start a := by
  have hne : a.toList ≠ [] := by simpa using ha
  rw [start, start, String.toList_append, List.head?_append_of_ne_nil _ hne]

end FilePath

namespace Files

open FilePath

variable {fs : Files} {root file : String} {d : FilePath} {ps : List String}

lemma follow_append (fs : Files) (d : FilePath) (ps qs : List String) :
    fs.follow d (ps ++ qs) = fs.follow d ps >>= fun d' => fs.follow d' qs := by
  induction ps generalizing d with
  | nil => rfl
  | cons p ps ih =>
    rw [List.cons_append, follow, follow, ih]
    split
    · rfl
    · split <;> rfl

lemma follow_name (hd : fs.hasDirectory d = true) (h : IsName file) : fs.follow d [file] = .ok (d ++ [file]) := by
  rw [follow, if_neg (by simp [hd]), if_neg (Nat.not_lt.mpr h.short), h.step_eq]
  rfl

lemma follow_of_follow_nothing {d₀ : FilePath} (h : fs.follow d₀ (ps ++ [""]) = .ok d) : fs.follow d₀ ps = .ok d := by
  rw [follow_append] at h
  cases hps : fs.follow d₀ ps with
  | error e =>
    rw [hps] at h
    cases h
  | ok d' =>
    rw [hps] at h
    change fs.follow d' [""] = .ok d at h
    rw [follow] at h
    split at h
    · cases h
    · exact h

lemma exists_join (hroot : root ≠ "") (file : String) :
    ∃ a, join root file = a ++ "/" ++ file ∧ (parts root = parts a ∨ parts root = parts a ++ [""]) ∧
      start (join root file) = start root := by
  rw [join]
  split
  · next hlast =>
    rw [List.getLast?_eq_none_iff, String.toList_eq_nil_iff] at hlast
    exact absurd hlast hroot
  · next hlast =>
    obtain ⟨cs, hcs⟩ := List.getLast?_eq_some_iff.mp hlast
    have hslash : root = .ofList cs ++ "/" := by
      rw [← String.toList_inj, hcs]
      simp
    refine ⟨.ofList cs, by rw [hslash], .inr ?_, start_append hroot file⟩
    rw [hslash, ← String.append_empty (s := _ ++ "/"), parts_slash]
    rfl
  · exact ⟨root, rfl, .inl rfl, by rw [String.append_assoc, start_append hroot]⟩

lemma mem_join {c : Char} (h : c ∈ (join root file).toList) : c ∈ root.toList ∨ c = '/' ∨ c ∈ file.toList := by
  rw [join] at h
  split at h
  · exact .inr (.inr h)
  · rw [String.toList_append, List.mem_append] at h
    exact h.imp_right .inr
  · simpa [or_assoc] using h

lemma resolve_eq_ok_iff {s : String} : fs.resolve s = .ok d ↔
    '\x00' ∉ s.toList ∧ s ≠ "" ∧ s.utf8ByteSize ≤ maxPath ∧ fs.follow (start s) (parts s) = .ok d := by
  rw [resolve]
  split
  · next hnul => simp_all
  · next hnul =>
    split
    · next hempty => simp_all
    · next hempty =>
      split
      · next hlong => simp_all
      · next hlong => simp_all

lemma resolve_join (h : fs.resolve root = .ok d) (hd : fs.hasDirectory d = true) (hfile : IsName file)
    (hroom : (join root file).utf8ByteSize ≤ maxPath) : fs.resolve (join root file) = .ok (d ++ [file]) := by
  obtain ⟨hnul, hne, _, hfollow⟩ := resolve_eq_ok_iff.mp h
  obtain ⟨a, hjoin, hparts, hstart⟩ := exists_join hne file
  have ha : fs.follow (start root) (parts a) = .ok d := by
    rcases hparts with hparts | hparts
    · rwa [hparts] at hfollow
    · rw [hparts] at hfollow
      exact follow_of_follow_nothing hfollow
  rw [resolve_eq_ok_iff]
  refine ⟨?_, ?_, hroom, ?_⟩
  · intro hmem
    rcases mem_join hmem with hroot | hslash | hname
    · exact hnul hroot
    · cases hslash
    · exact hfile.noNul hname
  · rw [hjoin]
    simp
  · rw [hstart, hjoin, parts_slash, hfile.parts_eq, follow_append, ha]
    exact follow_name hd hfile

def fileNames (fs : Files) (d : FilePath) : List String :=
  (fs.contents.map (·.1)).filterMap fun p => if p.dropLast = d then p.getLast? else none

lemma child_eq_some_iff {p : FilePath} :
    (if p.dropLast = d then p.getLast? else none) = some file ↔ p = d ++ [file] := by
  constructor
  · intro h
    split at h
    · next hd =>
      rw [← hd, List.dropLast_append_getLast? file h]
    · cases h
  · rintro rfl
    simp

lemma mem_fileNames : file ∈ fs.fileNames d ↔ d ++ [file] ∈ fs.contents.map (·.1) := by
  rw [fileNames, List.mem_filterMap]
  simp only [child_eq_some_iff, exists_eq_right]

lemma nodup_fileNames (h : (fs.contents.map (·.1)).Nodup) (d : FilePath) : (fs.fileNames d).Nodup := by
  refine h.filterMap fun p q file hp hq => ?_
  rw [child_eq_some_iff.mp hp, child_eq_some_iff.mp hq]

lemma list_eq (h : fs.resolve root = .ok d) (hd : fs.hasDirectory d = true) : fs.list root = .ok (fs.fileNames d ++
    fs.directories.eraseDups.filterMap fun p => if p.dropLast = d then p.getLast? else none) := by
  rw [list, h]
  change (if fs.hasDirectory d = true then _ else _) = _
  rw [if_pos hd, List.filterMap_append]
  rfl

lemma read_join_eq_ok_iff (h : fs.resolve root = .ok d) (hd : fs.hasDirectory d = true) (hfile : IsName file)
    (hroom : (join root file).utf8ByteSize ≤ maxPath) :
    (∃ text, fs.read (join root file) = .ok text) ↔ file ∈ fs.fileNames d := by
  have hkey : (fs.contents.lookup (d ++ [file])).isSome ↔ file ∈ fs.fileNames d := by
    rw [mem_fileNames, List.lookup_isSome_iff]
    simp
  rw [← hkey, read, resolve_join h hd hfile hroom]
  dsimp only [bind, Except.bind]
  cases fs.contents.lookup (d ++ [file]) <;> simp

end Files
end CharacterBuild
