import AmbientSound.Host.Loading
import AmbientSound.Proofs.Files.Writing
import AmbientSound.Proofs.Settings.Saving
/-!
Settings that are saved to a file and loaded from it. They come back sanitized, and no further saving
and loading changes them.
-/
namespace AmbientSound

namespace Host

section Saving

variable {s t : Settings} {path : String} {tree final : FileTree}

theorem saveSettings_iff : saveSettings FileTree.disk s path tree = (.ok (), final) ↔
    ∃ room, tree.makeRoom path = .ok room ∧ room.write path s.toToml = .ok final := by
  cases made : tree.makeRoom path with
  | error fault =>
    have run : saveSettings FileTree.disk s path tree = (.error ⟨none, fault⟩, tree) := by
      simp only [saveSettings, FileTree.disk, FileTree.changed, bind, StateT.bind, made]
      rfl
    rw [run]
    refine ⟨fun same => ?_, fun ⟨_, other, _⟩ => ?_⟩
    · cases (Prod.mk.inj same).1
    · cases other
  | ok room =>
    cases written : room.write path s.toToml with
    | error fault =>
      have run : saveSettings FileTree.disk s path tree =
          (.error ⟨some ("Failed to write " ++ path), fault⟩, room) := by
        simp only [saveSettings, FileTree.disk, FileTree.changed, bind, StateT.bind, made, written]
        rfl
      rw [run]
      refine ⟨fun same => ?_, fun ⟨_, here, other⟩ => ?_⟩
      · cases (Prod.mk.inj same).1
      · rw [← Except.ok.inj here, written] at other
        cases other
    | ok last =>
      have run : saveSettings FileTree.disk s path tree = (.ok (), last) := by
        simp only [saveSettings, FileTree.disk, FileTree.changed, bind, StateT.bind, made, written]
        rfl
      rw [run]
      refine ⟨fun same => ?_, fun ⟨_, here, same⟩ => ?_⟩
      · exact ⟨room, rfl, (Prod.mk.inj same).2 ▸ written⟩
      · rw [← Except.ok.inj here, written] at same
        rw [Except.ok.inj same]

theorem saveSettings_read (saved : saveSettings FileTree.disk s path tree = (.ok (), final)) :
    final.read path = .ok s.toToml ∨ final.Discards path := by
  obtain ⟨room, -, written⟩ := saveSettings_iff.mp saved
  refine (FileTree.read_write written).imp_right ?_
  rintro ⟨void, rfl⟩
  exact void

theorem saveSettings_again (saved : saveSettings FileTree.disk s path tree = (.ok (), final))
    (kept : ¬ final.Discards path) (t : Settings) :
    ∃ last, saveSettings FileTree.disk t path final = (.ok (), last) ∧
      last.read path = .ok t.toToml := by
  obtain ⟨room, made, written⟩ := saveSettings_iff.mp saved
  obtain ⟨last, again⟩ := FileTree.write_again written t.toToml
  have room' : final.makeRoom path = .ok final :=
    FileTree.makeRoom_again made (FileTree.within_write written)
  refine ⟨last, saveSettings_iff.mpr ⟨final, room', again⟩, ?_⟩
  exact (FileTree.read_write again).resolve_right fun void => kept void.1

theorem settingsOf_toToml (numeric : s.Numeric) (words : s.InWords) :
    settingsOf (.ok s.toToml) = s.sanitized := by
  rw [settingsOf, Settings.ofToml?_toToml numeric words, Option.getD_some]

end Saving

/-- Settings that are saved and loaded come back sanitized, so sanitized settings come back as they
were. What was loaded can be saved to the same file again, and loads as it is. -/
theorem saved_settings_load (s : Settings) (path : String) (tree final : FileTree)
    (numeric : s.Numeric) (words : s.InWords)
    (saved : saveSettings FileTree.disk s path tree = (.ok (), final))
    (kept : ¬ final.Discards path) :
    let loaded := settingsOf (final.read path)
    loaded = s.sanitized ∧ (∀ t : Settings, s = t.sanitized → loaded = s) ∧
      ∃ last, saveSettings FileTree.disk loaded path final = (.ok (), last) ∧
        settingsOf (last.read path) = loaded := by
  intro loaded
  have first : loaded = s.sanitized := by
    have read := (saveSettings_read saved).resolve_right kept
    change settingsOf (final.read path) = _
    rw [read, settingsOf_toToml numeric words]
  refine ⟨first, ?_, ?_⟩
  · rintro t rfl
    rw [first, Settings.sanitized_idem]
  · obtain ⟨last, again, read⟩ := saveSettings_again saved kept loaded
    refine ⟨last, again, ?_⟩
    rw [read, first, settingsOf_toToml (s.numeric_sanitized numeric) (s.inWords_sanitized words),
      s.sanitized_idem]

def wildSettings : Settings :=
  { master := Single.infinity, ambient := -Single.infinity, muted := true, fadeTicks := 4294967295,
    floor := Single.infinity, interval := 0, effectRange := 65,
    biome := ⟨false, ⟨-1, 100, 0⟩, -2147483648, [.nether, ⟨7⟩]⟩,
    blocks := ⟨true, ⟨2147483647, 4, 10⟩, -8, 0⟩, roofRadius := 17 }

theorem wildSettings_load : ∃ final last,
    saveSettings FileTree.disk wildSettings "t" .bare = (.ok (), final) ∧
    settingsOf (final.read "t") = wildSettings.sanitized ∧
    saveSettings FileTree.disk wildSettings.sanitized "t" final = (.ok (), last) ∧
    settingsOf (last.read "t") = wildSettings.sanitized := by
  have numeric : wildSettings.Numeric := by
    constructor <;> decide +kernel
  have words : wildSettings.InWords :=
    ⟨by decide, by decide, by decide, ⟨by decide, by decide, by decide⟩, by decide, by decide,
      ⟨by decide, by decide, by decide⟩, by decide, by decide, by decide⟩
  have saved : saveSettings FileTree.disk wildSettings "t" .bare =
      (.ok (), FileTree.bare.put ["", "", "t"] (.text wildSettings.toToml)) :=
    saveSettings_iff.mpr ⟨.bare, FileTree.makeRoom_home, FileTree.write_home _⟩
  obtain ⟨first, -, last, again, second⟩ := saved_settings_load _ _ _ _ numeric words saved
    (FileTree.kept_home _ _)
  rw [first] at again second
  exact ⟨_, last, saved, first, again, second⟩

end Host

end AmbientSound
