import CrossShell.Config.Load
import CrossShell.Proofs.Machine.Action
import CrossShell.Proofs.Machine.Files

/-!
Reading a config.

All that reading a config does to the machine, the config's script does: the file is found and read
without a change, and what the script leaves of the machine is left. So whatever runs scripts, what
was loaded comes from one file, from the answer of its script.
-/

set_option autoImplicit false

namespace CrossShell.Config

open Machine (Route)
open Script (Interpreter Store)

variable {interpret : Interpreter} {m m' : Machine} {name path source : String}
  {l : Machine.Location} {config : Config} {d : Descriptor} {warnings : List Warning}

/-- A config comes from the table that a script answers, and the script left the machine. -/
theorem ofSource_eq_ok (h : ofSource interpret name source m = .ok config m') :
    ∃ address s, interpret name source (startStore m.host) m = .ok (.table address, s) m' ∧
      ofTable s address = .ok config := by
  unfold ofSource at h
  split at h
  · cases h
  · rw [Machine.Action.get_bind] at h
    obtain ⟨⟨v, s⟩, m₁, hexplained, hanswered⟩ := Machine.Action.bind_eq_ok h
    have hrun := Machine.explain_eq_ok hexplained
    obtain ⟨hanswer, rfl⟩ := Machine.answer_eq_ok hanswered
    cases v with
    | table address =>
      cases htable : ofTable s address with
      | error defect => simp only [ofAnswer, htable] at hanswer; cases hanswer
      | ok c =>
        simp only [ofAnswer, htable] at hanswer
        cases hanswer
        exact ⟨address, s, hrun, htable⟩
    | _ => cases hanswer

theorem locate_of_spellOut
    (h : m.files.spellOut m.directory (Route.ofText path) = .ok l) :
    Machine.locate path m = .ok l m := by
  simp only [Machine.locate, Machine.look, h]

theorem ofFileWith_of_script
    (hlocate : m.files.spellOut m.directory (Route.ofText path) = .ok l)
    (hread : Machine.readText (Machine.pathOf l) m = .ok source m)
    (hscript : ofSource interpret (Machine.pathOf l) source m = .ok config m') :
    ofFileWith interpret path m = .ok config m' := by
  have hat := Machine.explain_of_ok (f := ConfigError.unreadable path)
    (locate_of_spellOut hlocate)
  have hsource := Machine.explain_of_ok (f := ConfigError.unreadable path) hread
  rw [ofFileWith, Machine.Action.bind_of_ok hat, Machine.Action.bind_of_ok hsource, hscript]

/-- A config is read from a file at whose full path the file is found as well. -/
theorem loadWith_of_script
    (hlocate : m.files.spellOut m.directory (Route.ofText path) = .ok l)
    (hfull : m.files.spellOut m.directory (Route.ofText (Machine.pathOf l)) = .ok l)
    (hread : Machine.readText (Machine.pathOf l) m = .ok source m)
    (hscript : ofSource interpret (Machine.pathOf l) source m = .ok config m')
    (hdescribe : config.describe = .ok (d, warnings)) :
    loadWith interpret path m = .ok ⟨d, config.nixpkgs.map fun n =>
      resolveNixpkgs n (Machine.pathOf l.dropLast), warnings⟩ m' := by
  have hat := Machine.explain_of_ok (f := ConfigError.unreadable path)
    (locate_of_spellOut hlocate)
  have hfile := ofFileWith_of_script hfull hread hscript
  have hanswer : Machine.answer config.describe m' = .ok (d, warnings) m' := by
    rw [hdescribe]
    rfl
  rw [loadWith, Machine.Action.bind_of_ok hat, Machine.Action.bind_of_ok hfile,
    Machine.Action.bind_of_ok hanswer]
  rfl

/-- A config at a place that cannot be spelt out is not found. -/
theorem loadWith_of_too_long
    (h : m.files.spellOut m.directory (Route.ofText path) = .error .nameTooLong) :
    loadWith interpret path m = .error (.unreadable path .nameTooLong) m := by
  have hlocate : Machine.locate path m = .error .nameTooLong m := by
    simp only [Machine.locate, Machine.look, h]
  exact Machine.Action.bind_of_error
    (Machine.explain_of_error (f := ConfigError.unreadable path) hlocate)

/-- What was loaded comes from one file, and its package set was resolved from the directory of
that file. -/
theorem loadWith_eq_ok {loaded : Loaded} (h : loadWith interpret path m = .ok loaded m') :
    ∃ l config, m.files.locationOf m.directory (Route.ofText path) = .ok l ∧
      ofFileWith interpret (Machine.pathOf l) m = .ok config m' ∧
      loaded.nixpkgs
        = config.nixpkgs.map fun n => resolveNixpkgs n (Machine.pathOf l.dropLast) := by
  obtain ⟨l, m₁, hlocate, hfound⟩ := Machine.Action.bind_eq_ok h
  obtain ⟨config, m₂, hfile, hread⟩ := Machine.Action.bind_eq_ok hfound
  obtain ⟨described, m₃, hdescribe, hanswer⟩ := Machine.Action.bind_eq_ok hread
  obtain ⟨hspelled, rfl⟩ := Machine.look_eq_ok (Machine.explain_eq_ok hlocate)
  obtain ⟨-, rfl⟩ := Machine.answer_eq_ok hdescribe
  cases hanswer
  exact ⟨l, config, (Machine.FileTree.spellOut_eq_ok.1 hspelled).1, hfile, rfl⟩

end CrossShell.Config
