import CrossShell.Proofs.Config.Describe
import CrossShell.Proofs.SortedMap
import CrossShell.Proofs.Target

/-!
The variables of a shell: the user's own over those that tell build tools of the target.

Every key is the name of a variable, since a config with any other key is refused and the target's
own variables have names made of capital letters, digits and underscores.
-/

set_option autoImplicit false

namespace CrossShell

namespace Descriptor

/-! ## The name of the linker -/

/-- A character of a name for Rust as it stands in the name of a variable. -/
def variableChar (c : Char) : Char :=
  if c = '-' then '_' else c.toUpper

theorem toList_linkerVariable (t : Target) :
    (linkerVariable t).toList
      = 'C' :: ("ARGO_TARGET_".toList
        ++ (t.rustTriple.toList.map variableChar ++ "_LINKER".toList)) := by
  have hfirst : "CARGO_TARGET_".toList = 'C' :: "ARGO_TARGET_".toList := by decide
  have hmiddle : (String.ofList (t.rustTriple.toList.map variableChar)).toList
      = t.rustTriple.toList.map variableChar := String.toList_ofList
  show ("CARGO_TARGET_" ++ String.ofList (t.rustTriple.toList.map variableChar)
    ++ "_LINKER").toList = _
  rw [String.toList_append, String.toList_append, hmiddle, hfirst, List.append_assoc]
  rfl

theorem linkerVariable_ne {t : Target} {key : String}
    (h : key.toList.take 7 ≠ "CARGO_T".toList) : key ≠ linkerVariable t := by
  intro heq
  apply h
  rw [heq, toList_linkerVariable]
  rfl

/-! ## What a key stands for -/

/-- The variables that tell build tools of a target. -/
def defaults (t : Target) (cross : Bool) : List (String × String) :=
  [("CROSSENV_TARGET", t.triple), ("CARGO_BUILD_TARGET", t.rustTriple)]
    ++ if cross then
      [("PKG_CONFIG_ALLOW_CROSS", "1"), (linkerVariable t, t.toolPrefix ++ "cc")]
    else []

theorem ownVariables_eq (d : Descriptor) (host : Option Platform) :
    d.ownVariables host = SortedMap.ofList (defaults d.target (d.isCross host)) := by
  unfold ownVariables defaults SortedMap.ofList
  rw [SortedMap.insertAll_append]
  cases d.isCross host with
  | true => rfl
  | false => rfl

theorem distinct_defaults (t : Target) (cross : Bool) :
    (defaults t cross).Pairwise fun a b => a.1 ≠ b.1 := by
  have htarget : "CROSSENV_TARGET" ≠ linkerVariable t := linkerVariable_ne (by decide)
  have hbuild : "CARGO_BUILD_TARGET" ≠ linkerVariable t := linkerVariable_ne (by decide)
  have hallow : "PKG_CONFIG_ALLOW_CROSS" ≠ linkerVariable t := linkerVariable_ne (by decide)
  cases cross with
  | true => simp [defaults, htarget, hbuild, hallow]
  | false => simp [defaults]

/-- A key stands for the user's value, or else for the one that the target gives it. -/
theorem get?_shellEnv (d : Descriptor) (host : Option Platform) (key : String) :
    (d.shellEnv host).get? key
      = (d.env.get? key).or ((defaults d.target (d.isCross host)).lookup key) := by
  unfold shellEnv
  rw [SortedMap.get?_insertAll, ownVariables_eq, SortedMap.ofList,
    SortedMap.get?_insertAll_of_distinct _ (distinct_defaults _ _), SortedMap.get?_empty,
    Option.or_none]

/-! ## Which keys there are -/

theorem isVariableName_linkerVariable (t : Target) :
    Config.isVariableName (linkerVariable t) = true := by
  have hbefore : ("ARGO_TARGET_".toList.all fun c => c.isAlphanum || c == '_') = true := by decide
  have hafter : ("_LINKER".toList.all fun c => c.isAlphanum || c == '_') = true := by decide
  have hchars : (Target.tripleChars.all fun c =>
      (variableChar c).isAlphanum || variableChar c == '_') = true := by decide
  have hmiddle : ((t.rustTriple.toList.map variableChar).all fun c =>
      c.isAlphanum || c == '_') = true := by
    rw [List.all_map, List.all_eq_true]
    intro c hc
    exact List.all_eq_true.1 hchars c (Target.mem_tripleChars t.isTripleText_rustTriple c hc)
  unfold Config.isVariableName
  rw [toList_linkerVariable]
  refine Bool.and_eq_true_iff.2 ⟨by decide, ?_⟩
  rw [List.all_append, List.all_append, hbefore, hmiddle, hafter]
  rfl

theorem mem_defaults {t : Target} {cross : Bool} {e : String × String} (h : e ∈ defaults t cross) :
    e = ("CROSSENV_TARGET", t.triple) ∨ e = ("CARGO_BUILD_TARGET", t.rustTriple) ∨
      e = ("PKG_CONFIG_ALLOW_CROSS", "1") ∨ e = (linkerVariable t, t.toolPrefix ++ "cc") := by
  cases cross with
  | true => simpa [defaults, or_assoc] using h
  | false =>
    have hown : e = ("CROSSENV_TARGET", t.triple) ∨ e = ("CARGO_BUILD_TARGET", t.rustTriple) := by
      simpa [defaults] using h
    exact hown.imp_right Or.inl

theorem isVariableName_of_mem_defaults {t : Target} {cross : Bool} {e : String × String}
    (h : e ∈ defaults t cross) : Config.isVariableName e.1 = true := by
  have htarget : Config.isVariableName "CROSSENV_TARGET" = true := by decide
  have hbuild : Config.isVariableName "CARGO_BUILD_TARGET" = true := by decide
  have hallow : Config.isVariableName "PKG_CONFIG_ALLOW_CROSS" = true := by decide
  obtain rfl | rfl | rfl | rfl := mem_defaults h
  · exact htarget
  · exact hbuild
  · exact hallow
  · exact isVariableName_linkerVariable t

/-- No variable of the target's own is something else that a shell is made of. -/
theorem not_mem_reservedKeys_of_mem_defaults {t : Target} {cross : Bool} {e : String × String}
    (h : e ∈ defaults t cross) : e.1 ∉ Config.reservedKeys := by
  have htarget : "CROSSENV_TARGET" ∉ Config.reservedKeys := by decide
  have hbuild : "CARGO_BUILD_TARGET" ∉ Config.reservedKeys := by decide
  have hallow : "PKG_CONFIG_ALLOW_CROSS" ∉ Config.reservedKeys := by decide
  have hstart : ∀ key ∈ Config.reservedKeys, key.toList.take 7 ≠ "CARGO_T".toList := by decide
  have hlinker : linkerVariable t ∉ Config.reservedKeys :=
    fun hmem => linkerVariable_ne (hstart _ hmem) rfl
  obtain rfl | rfl | rfl | rfl := mem_defaults h
  · exact htarget
  · exact hbuild
  · exact hallow
  · exact hlinker

/-- What holds of the user's variables and of the target's own holds of all. -/
theorem forall_mem_shellEnv {p : String × String → Prop} {d : Descriptor} {host : Option Platform}
    (henv : ∀ e ∈ d.env.entries, p e)
    (hdefaults : ∀ e ∈ defaults d.target (d.isCross host), p e) :
    ∀ e ∈ (d.shellEnv host).entries, p e := by
  intro e he
  obtain huser | hown := SortedMap.mem_insertAll he
  · exact henv e huser
  · rw [ownVariables_eq] at hown
    obtain hdefault | hempty := SortedMap.mem_insertAll hown
    · exact hdefaults e hdefault
    · cases hempty

theorem isVariableName_of_mem_shellEnv {d : Descriptor} {host : Option Platform}
    (henv : ∀ e ∈ d.env.entries, Config.isVariableName e.1 = true) :
    ∀ e ∈ (d.shellEnv host).entries, Config.isVariableName e.1 = true :=
  forall_mem_shellEnv henv fun _ he => isVariableName_of_mem_defaults he

theorem not_mem_reservedKeys_of_mem_shellEnv {d : Descriptor} {host : Option Platform}
    (henv : ∀ e ∈ d.env.entries, e.1 ∉ Config.reservedKeys) :
    ∀ e ∈ (d.shellEnv host).entries, e.1 ∉ Config.reservedKeys :=
  forall_mem_shellEnv henv fun _ he => not_mem_reservedKeys_of_mem_defaults he

end Descriptor

end CrossShell
