import PlotStream.Log.Registry

/-!
# Setting up the log

Text in capitals has no small Latin letter (`Text.isLower_of_mem_upper`). Of the names in the logging
facility the text of a level can therefore only meet those of the levels and the two of
`Loggers.unusable`, and every other text means `info` (`Loggers.levelOf_eq_ok_iff`). Setting up fails at
a text that is unusable, with a new handler and everything else as it was, and is settled for good by
the first text that is not (`Loggers.settled_by_first_usable`).
-/

namespace PlotStream

section Lookup

variable {α β : Type} [BEq α] [LawfulBEq α] {table : List (α × β)} {a : α} {b : β}

theorem mem_of_lookup (h : table.lookup a = some b) : (a, b) ∈ table := by
  obtain ⟨before, after, htable, -⟩ := List.lookup_eq_some_iff.mp h
  rw [htable]
  exact List.mem_append_right _ List.mem_cons_self

theorem lookup_of_mem (hkeys : (table.map Prod.fst).Nodup) (h : (a, b) ∈ table) :
    table.lookup a = some b := by
  obtain ⟨before, after, rfl⟩ := List.append_of_mem h
  refine List.lookup_eq_some_iff.mpr ⟨before, after, rfl, fun entry hentry => ?_⟩
  rw [List.map_append, List.nodup_append] at hkeys
  have hne : entry.1 ≠ a :=
    hkeys.2.2 entry.1 (List.mem_map_of_mem hentry) a (List.mem_map_of_mem List.mem_cons_self)
  exact bne_iff_ne.mpr hne.symm

theorem lookup_eq_none_iff_notMem : table.lookup a = none ↔ a ∉ table.map Prod.fst := by
  rw [List.lookup_eq_none_iff]
  constructor
  · intro h hmem
    obtain ⟨entry, hentry, rfl⟩ := List.mem_map.mp hmem
    exact bne_iff_ne.mp (h entry hentry) rfl
  · intro h entry hentry
    exact bne_iff_ne.mpr fun heq => h (List.mem_map.mpr ⟨entry, hentry, heq.symm⟩)

end Lookup

namespace Text

theorem isLower_iff {c : Char} : c.isLower = true ↔ 97 ≤ c.toNat ∧ c.toNat ≤ 122 := by
  change (decide ('a'.val ≤ c.val) && decide (c.val ≤ 'z'.val)) = true ↔ _
  rw [Bool.and_eq_true, decide_eq_true_iff, decide_eq_true_iff, UInt32.le_iff_toNat_le,
    UInt32.le_iff_toNat_le]
  rfl

/-- A code outside the small letters gives none, also where it is no character at all. -/
theorem isLower_ofNat {n : Nat} (h : n < 97 ∨ 122 < n) : (Char.ofNat n).isLower = false := by
  rw [← Bool.not_eq_true, isLower_iff]
  by_cases hvalid : n.isValidChar
  · have hcode : (Char.ofNat n).toNat = n := by
      rw [Char.ofNat, dif_pos hvalid]
      rfl
    omega
  · have hcode : (Char.ofNat n).toNat = 0 := by
      rw [Char.ofNat, dif_neg hvalid]
      rfl
    omega

theorem isLower_toUpper {c : Char} (h : c.toNat < 0x80) : c.toUpper.isLower = false := by
  have hascii : ∀ n < 0x80, (Char.ofNat n).toUpper.isLower = false := by decide
  rw [← Char.ofNat_toNat c]
  exact hascii c.toNat h

theorem not_small_of_mem_upperExpansions :
    ∀ e ∈ upperExpansions, ∀ n ∈ e.2, n < 97 ∨ 122 < n := by
  decide

/-- No run beyond ASCII leads to a small Latin letter. -/
theorem not_small_of_mem_upperRuns :
    ∀ r ∈ upperRuns, r.last < 0x80 ∨ r.last + r.distance < 97 ∨ 122 < r.first + r.distance := by
  decide +kernel

theorem isLower_of_mem_changeCase {c d : Char} (hc : 0x80 ≤ c.toNat)
    (h : d ∈ changeCase upperRuns upperExpansions c) : d.isLower = false := by
  unfold changeCase at h
  split at h
  next codes hfound =>
    obtain ⟨n, hn, rfl⟩ := List.mem_map.mp h
    exact isLower_ofNat (not_small_of_mem_upperExpansions _ (mem_of_lookup hfound) n hn)
  next =>
    split at h
    next r hfound =>
      have hrun : r.first ≤ c.toNat ∧ c.toNat ≤ r.last := by
        have hcontains := List.find?_some hfound
        simp only [CaseRun.contains, Bool.and_eq_true, decide_eq_true_eq] at hcontains
        exact hcontains.1
      have hsmall := not_small_of_mem_upperRuns r (List.mem_of_find?_eq_some hfound)
      obtain rfl := List.mem_singleton.mp h
      exact isLower_ofNat (by omega)
    next =>
      obtain rfl := List.mem_singleton.mp h
      rw [← Bool.not_eq_true, isLower_iff]
      omega

theorem isLower_of_mem_upper {cs : List Char} {d : Char} (h : d ∈ upper cs) :
    d.isLower = false := by
  obtain ⟨c, -, hd⟩ := List.mem_flatMap.mp h
  unfold upperChar at hd
  split at hd
  next hascii =>
    obtain rfl := List.mem_singleton.mp hd
    exact isLower_toUpper hascii
  next hbeyond => exact isLower_of_mem_changeCase (Nat.not_lt.mp hbeyond) hd

end Text

namespace Loggers

/-- The names that the logging facility may bind: those of the levels, those in capitals that are no
levels, and, whatever they stand for, names with a small letter. -/
def MayBind (name : String) : Prop :=
  name ∈ Level.named.map Prod.fst ∨ name ∈ unusable.map Prod.fst ∨
    ∃ c ∈ name.toList, c.isLower = true

/-- What a text means as a level: the level that it names in capitals, or `info` where nothing can be
bound to that name. -/
def Means (level : String) (l : Level) : Prop :=
  (Settings.upperText level, l) ∈ Level.named ∨ ¬ MayBind (Settings.upperText level) ∧ l = .info

theorem isLower_of_mem_upperText {s : String} {c : Char} (h : c ∈ (Settings.upperText s).toList) :
    c.isLower = false := by
  rw [Settings.upperText, String.toList_ofList] at h
  exact Text.isLower_of_mem_upper h

theorem levelOf_eq_error_iff {name : String} {fault : Fault} :
    levelOf name = .error fault ↔ (name, fault) ∈ unusable := by
  have hkeys : (unusable.map Prod.fst).Nodup := by decide
  constructor
  · intro h
    rw [levelOf] at h
    split at h
    next _ hlookup =>
      cases h
      exact mem_of_lookup hlookup
    next => cases h
  · intro h
    rw [levelOf, lookup_of_mem hkeys h]

/-- A text is taken for the level that it means. -/
theorem levelOf_eq_ok_iff {level : String} {l : Level} :
    levelOf (Settings.upperText level) = .ok l ↔ Means level l := by
  have hkeys : (Level.named.map Prod.fst).Nodup := by decide
  have hapart : ∀ name ∈ Level.named.map Prod.fst, unusable.lookup name = none := by decide +kernel
  constructor
  · intro h
    rw [levelOf] at h
    split at h
    next => cases h
    next hunusable =>
      cases h
      cases hname : Level.ofName? (Settings.upperText level) with
      | some l => exact .inl (mem_of_lookup hname)
      | none =>
        refine .inr ⟨?_, rfl⟩
        rintro (hnamed | hother | ⟨c, hc, hlower⟩)
        · exact lookup_eq_none_iff_notMem.mp hname hnamed
        · exact lookup_eq_none_iff_notMem.mp hunusable hother
        · exact Bool.false_ne_true ((isLower_of_mem_upperText hc).symm.trans hlower)
  · rintro (hnamed | ⟨hunbound, rfl⟩)
    · rw [levelOf, hapart _ (List.mem_map_of_mem hnamed), Level.ofName?, lookup_of_mem hkeys hnamed]
      rfl
    · have hname := lookup_eq_none_iff_notMem.mpr fun h => hunbound (.inl h)
      have hunusable := lookup_eq_none_iff_notMem.mpr fun h => hunbound (.inr (.inl h))
      rw [levelOf, hunusable, Level.ofName?, hname]
      rfl

-- a letter beyond ASCII may have an ASCII capital
example : levelOf (Settings.upperText "crıtical") = .ok .critical := rfl

/-- Whether a text can be used as a level: in capitals it is not the name of anything else. -/
def isUsable (level : String) : Bool :=
  (unusable.lookup (Settings.upperText level)).isNone

theorem isUsable_eq_isOk (level : String) :
    isUsable level = (levelOf (Settings.upperText level)).isOk := by
  rw [isUsable, levelOf]
  cases unusable.lookup (Settings.upperText level) with
  | none => rfl
  | some fault => rfl

theorem isUsable_of_level {level : String} {l : Level}
    (h : levelOf (Settings.upperText level) = .ok l) : isUsable level = true := by
  rw [isUsable_eq_isOk, h]
  rfl

theorem isUsable_of_fault {level : String} {fault : Fault}
    (h : levelOf (Settings.upperText level) = .error fault) : isUsable level = false := by
  rw [isUsable_eq_isOk, h]
  rfl

variable {ls : Loggers}

theorem setUp_of_configured (h : ls.configured = true) (level : String) :
    ls.setUp level = (.ok (), ls) := by
  rw [setUp, if_pos h]

theorem setUp_of_fault (fresh : ls.configured = false) {level : String} {fault : Fault}
    (h : levelOf (Settings.upperText level) = .error fault) :
    ls.setUp level = (.error fault, ls.replaceHandlers) := by
  rw [setUp, fresh, if_neg Bool.false_ne_true, h]

theorem setUp_of_level (fresh : ls.configured = false) {level : String} {l : Level}
    (h : levelOf (Settings.upperText level) = .ok l) :
    ls.setUp level = (.ok (), { ls.replaceHandlers with
      rootLevel := l, verdicts := [], configured := true }) := by
  rw [setUp, fresh, if_neg Bool.false_ne_true, h]

/-- Set up logging at one level after the other: what each call answers and what it leaves. -/
def setUpEach (ls : Loggers) : List String → List (Except Fault Unit × Loggers)
  | [] => []
  | level :: levels => ls.setUp level :: setUpEach (ls.setUp level).2 levels

@[simp]
theorem length_setUpEach (ls : Loggers) (levels : List String) :
    (ls.setUpEach levels).length = levels.length := by
  induction levels generalizing ls with
  | nil => rfl
  | cons level levels ih => simp [setUpEach, ih]

/-- Once setting up has succeeded, nothing changes any more. -/
theorem setUpEach_of_configured (h : ls.configured = true) (levels : List String) :
    ls.setUpEach levels = levels.map fun _ => (.ok (), ls) := by
  induction levels with
  | nil => rfl
  | cons level levels ih => rw [setUpEach, setUp_of_configured h, ih, List.map_cons]

/-- The state after the handlers have been replaced for the first time and `n` times more. -/
def replaced (ls : Loggers) (n : Nat) : Loggers :=
  { ls with
    handlers := [⟨ls.handlersMade + n⟩]
    handlersMade := ls.handlersMade + n + 1
    numbered := by simp }

theorem replaced_replaceHandlers (ls : Loggers) (n : Nat) :
    ls.replaceHandlers.replaced n = ls.replaced (n + 1) := by
  simp only [replaced, replaceHandlers, Nat.add_assoc, Nat.add_comm 1 n]

/-- Before the first text that is usable every call fails, and a new handler is all that it leaves. -/
theorem setUpEach_before_usable (fresh : ls.configured = false) {levels : List String} {i : Nat}
    (hi : i < levels.findIdx isUsable) :
    ∃ level fault, levels[i]? = some level ∧ (Settings.upperText level, fault) ∈ unusable ∧
      (ls.setUpEach levels)[i]? = some (.error fault, ls.replaced i) := by
  -- each failing call moves the number of the handler on by one, and the state with it
  induction levels generalizing ls i with
  | nil => simp at hi
  | cons level levels ih =>
    rw [List.findIdx_cons] at hi
    cases hlevel : levelOf (Settings.upperText level) with
    | ok l => simp [isUsable_of_level hlevel] at hi
    | error fault =>
      have hfresh : ls.replaceHandlers.configured = false := fresh
      rw [setUpEach, setUp_of_fault fresh hlevel]
      cases i with
      | zero => exact ⟨level, fault, rfl, levelOf_eq_error_iff.mp hlevel, rfl⟩
      | succ i =>
        rw [isUsable_of_fault hlevel, cond_false, Nat.add_lt_add_iff_right] at hi
        rw [← replaced_replaceHandlers]
        exact ih hfresh hi

/-- The first text that is usable settles all. -/
theorem setUpEach_from_usable (fresh : ls.configured = false) {levels : List String} {i : Nat}
    (hfirst : levels.findIdx isUsable ≤ i) (hi : i < levels.length) :
    ∃ level l, levels[levels.findIdx isUsable]? = some level ∧ Means level l ∧
      (ls.setUpEach levels)[i]? = some (.ok (), { ls.replaced (levels.findIdx isUsable) with
        rootLevel := l, verdicts := [], configured := true }) := by
  induction levels generalizing ls i with
  | nil => simp at hi
  | cons level levels ih =>
    rw [List.findIdx_cons] at hfirst ⊢
    cases hlevel : levelOf (Settings.upperText level) with
    | ok l =>
      rw [isUsable_of_level hlevel, cond_true]
      refine ⟨level, l, rfl, levelOf_eq_ok_iff.mp hlevel, ?_⟩
      rw [setUpEach, setUp_of_level fresh hlevel, setUpEach_of_configured rfl]
      cases i with
      | zero => rfl
      | succ i =>
        rw [List.getElem?_cons_succ, List.getElem?_map,
          List.getElem?_eq_getElem (Nat.lt_of_succ_lt_succ hi)]
        rfl
    | error fault =>
      have hfresh : ls.replaceHandlers.configured = false := fresh
      rw [isUsable_of_fault hlevel, cond_false] at hfirst ⊢
      rw [setUpEach, setUp_of_fault fresh hlevel, ← replaced_replaceHandlers]
      cases i with
      | zero => omega
      | succ i => exact ih hfresh (Nat.le_of_succ_le_succ hfirst) (Nat.lt_of_succ_lt_succ hi)

/-- What setting up at one level after the other comes to, from any state in which it has not succeeded.
The calls before the first text that is usable fail, each with the fault of its own text; each leaves
one new handler in the place of the old ones and all else as it was. The call at that text and all calls
behind it succeed, and they leave one state: the level is the one that the text means, and the only
handler is the one that was made for it. So no call fails if the first text is usable. -/
theorem settled_by_first_usable (fresh : ls.configured = false) (levels : List String) :
    (ls.setUpEach levels).length = levels.length ∧
    (∀ i < levels.findIdx isUsable, ∃ level fault, levels[i]? = some level ∧
      (Settings.upperText level, fault) ∈ unusable ∧
      (ls.setUpEach levels)[i]? = some (.error fault, ls.replaced i)) ∧
    ∀ i, levels.findIdx isUsable ≤ i → i < levels.length →
      ∃ level l, levels[levels.findIdx isUsable]? = some level ∧ Means level l ∧
        (ls.setUpEach levels)[i]? = some (.ok (), { ls.replaced (levels.findIdx isUsable) with
          rootLevel := l, verdicts := [], configured := true }) :=
  ⟨length_setUpEach ls levels, fun _ hi => setUpEach_before_usable fresh hi,
    fun _ hfirst hi => setUpEach_from_usable fresh hfirst hi⟩

theorem settled_by_first_usable_misnamed :
    let levels := ["basic_format", "Debug", "_STYLES"]
    initial.configured = false ∧
    (initial.setUpEach levels)[0]? =
      some (.error (.unknownLevel "'%(levelname)s:%(name)s:%(message)s'"),
        initial.replaced 0) ∧
    (initial.setUpEach levels)[2]? =
      some (.ok (), { initial.replaced 1 with rootLevel := .debug, configured := true }) := by
  intro levels
  have hfirst : levels.findIdx isUsable = 1 := by decide +kernel
  have hformat : levelOf (Settings.upperText "basic_format") =
      .error (.unknownLevel "'%(levelname)s:%(name)s:%(message)s'") := rfl
  have hdebug : levelOf (Settings.upperText "Debug") = .ok .debug := rfl
  obtain ⟨-, hbefore, hfrom⟩ := @settled_by_first_usable initial rfl levels
  rw [hfirst] at hbefore hfrom
  refine ⟨rfl, ?_, ?_⟩
  · obtain ⟨level, fault, hlevel, hfault, hcall⟩ := hbefore 0 Nat.one_pos
    obtain rfl : "basic_format" = level := Option.some.inj hlevel
    cases hformat.symm.trans (levelOf_eq_error_iff.mpr hfault)
    exact hcall
  · obtain ⟨level, l, hlevel, hmeans, hcall⟩ := hfrom 2 (by decide) (by decide)
    obtain rfl : "Debug" = level := Option.some.inj hlevel
    cases hdebug.symm.trans (levelOf_eq_ok_iff.mpr hmeans)
    exact hcall

/-- A text that reads as the name of a format is refused, and the next one changes the level and the
handler. -/
theorem setting_up_refuses_name_of_format :
    let calls := initial.setUpEach ["basic_format", "debug"]
    calls.map Prod.fst = [.error (.unknownLevel "'%(levelname)s:%(name)s:%(message)s'"), .ok ()] ∧
    calls.map (·.2.rootLevel) = [.warning, .debug] ∧
    calls.map (·.2.handlers) = [[⟨0⟩], [⟨1⟩]] := by
  refine ⟨rfl, ?_, ?_⟩
  · decide +kernel
  · decide +kernel

end Loggers

end PlotStream
