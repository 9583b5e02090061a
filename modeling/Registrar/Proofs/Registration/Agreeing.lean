import Registrar.Proofs.Catalogue.Table
import Registrar.Proofs.Registration.Executing
import Registrar.Proofs.Registration.Scanning

/-! # The registry agrees with the scan

What is listed of modules without executing them is what executing them registers: a container that
was fresh has the keys of the rendered table, and under each key the item of the export that the
table lists under it.
-/

namespace Registrar

open Catalogue Registration Session

/-- A container has the keys that the table of some exports lists, each with an item of the kind of
the export that is listed. -/
structure Container.Agrees (container : Container) (objects : Store) (exports : List Export) :
    Prop where
  keys : container.names.Perm ((entries exports).map (·.key))
  items : ∀ key ∈ container.names, ∃ item last, container.item? key = some item ∧
    IsLast exports last ∧ last.key = key ∧ objects.metadata? item = some (last.kind, key) ∧
    ⟨key, dependencyType last⟩ ∈ entries exports

variable {index : Nat} {history : List Attempt} {before after : Session}
  {container : Container} {exports : List Export}

theorem Attempt.declared?_of_stored? {attempt : Attempt} {key : String} {item : Value}
    (h : attempt.stored? index = some (key, item)) :
    attempt.declared? index = some (key, attempt.request.kind) := by
  rw [declared?, h]
  rfl

/-- The keys of accepted items, with the items or with their kinds. -/
theorem keys_filterMap (index : Nat) (history : List Attempt) :
    (history.filterMap (·.declared? index)).map Prod.fst =
      (history.filterMap (·.stored? index)).map Prod.fst := by
  rw [List.map_filterMap, List.map_filterMap]
  congr 1
  funext attempt
  rw [Attempt.declared?, Option.map_map]
  rfl

theorem Container.exists_item? {name : String} (h : name ∈ container.names) :
    ∃ item, container.item? name = some item := by
  obtain ⟨entry, hentry, rfl⟩ := List.mem_map.mp h
  have hfound : (container.items.find? (·.1 == entry.1)).isSome :=
    List.find?_isSome.mpr ⟨entry, hentry, beq_self_eq_true _⟩
  obtain ⟨found, hfound⟩ := Option.isSome_iff_exists.mp hfound
  exact ⟨found.2, congrArg (Option.map Prod.snd) hfound⟩

namespace Container.Holds

variable {objects : Store}

/-- A container without items has accepted none. -/
theorem filterMap_eq_nil (h : container.Holds index history objects)
    (hitems : container.items = []) : history.filterMap (·.declared? index) = [] := by
  have horder := h.order
  rw [hitems, List.map_nil, ← keys_filterMap] at horder
  rw [List.eq_nil_iff_forall_not_mem]
  intro entry hentry
  have hkey := List.mem_eraseDups.mpr (List.mem_map_of_mem hentry (f := Prod.fst))
  rw [← horder] at hkey
  cases hkey

/-- If what a container accepted are some exports, it agrees with them. -/
theorem agrees (h : container.Holds index history objects)
    (hexports : history.filterMap (·.declared? index) = exports.map Export.entry) :
    container.Agrees objects exports := by
  have hkeys (name : String) : name ∈ container.names ↔ name ∈ (entries exports).map (·.key) := by
    have hnames : container.names = _ := h.order
    rw [hnames, List.mem_eraseDups, ← keys_filterMap, hexports, List.map_map, mem_keys_entries]
    rfl
  refine ⟨(List.perm_ext_iff_of_nodup h.distinct (nodup_entries exports)).mpr hkeys,
    fun name hname => ?_⟩
  obtain ⟨item, hitem⟩ := exists_item? hname
  obtain ⟨earlier, attempt, later, rfl, hstored, hlater⟩ := (h.last name item).mp hitem
  have hmetadata := h.metadata attempt (by simp) name item hstored
  -- The export at the place of the registration is the last one of its key.
  rw [List.filterMap_append, List.filterMap_cons_some (Attempt.declared?_of_stored? hstored)]
    at hexports
  obtain ⟨front, rest, rfl, -, hrest⟩ := List.map_eq_append_iff.mp hexports.symm
  obtain ⟨last, back, rfl, hlast, hback⟩ := List.map_eq_cons_iff.mp hrest
  obtain ⟨hkey, hkind⟩ := Prod.mk.inj hlast
  have hislast : IsLast (front ++ last :: back) last := by
    refine ⟨front, back, rfl, fun other hother hsame => ?_⟩
    have hentry := List.mem_map_of_mem hother (f := Export.entry)
    rw [hback] at hentry
    obtain ⟨attempt, hattempt, hentry⟩ := List.mem_filterMap.mp hentry
    obtain ⟨stored, hstored, hentry⟩ := Option.map_eq_some_iff.mp hentry
    have hname : stored.1 = name := (congrArg Prod.fst hentry).trans (hsame.trans hkey)
    exact hlater attempt hattempt stored.2 (hname ▸ hstored)
  rw [← hkey, ← hkind] at hmetadata
  exact ⟨item, last, hitem, hislast, hkey, hkey ▸ hmetadata,
    mem_entries_iff.mpr ⟨last, hislast, hkey ▸ rfl⟩⟩

end Container.Holds

/-- A container that was fresh agrees with the scan of the modules that were executed, and a module
rendered from the scan lists its keys: each by a literal that denotes it, unless the key leaves the
basic plane. -/
theorem executed_agrees {surroundings : Surroundings} {files : List (Path × Source.Module)}
    {labels : List Label} (start : Nat) (hquiet : surroundings.Quiet index)
    (hdeclared : ∀ file ∈ files, ∃ declared, Declared file.2 declared)
    (hreached : before.Reached history) (hfresh : before.containers[index]? = some container)
    (hempty : container.items = [])
    (hexecuted : surroundings.execute index (files.map (·.2)) before = (.ok labels, after))
    (hlabels : none ∉ labels) :
    let scanned := FileExports.number start
      (files.map fun file => (file.1, (scanModule .usual file.2).registrations))
    let exports := scanned.flatMap (·.exports)
    (∃ filled : Container, after.containers[index]? = some filled ∧
      filled.Agrees after.objects exports) ∧
      ∀ runtimeModule directory source,
        (render runtimeModule directory scanned).2 = .ok source →
          (dependenciesLines (entries exports)).map String.toList <:+: lines source.toList ∧
            ∀ entry ∈ entries exports,
              Source.Denotes (Json.literal entry.key) entry.key ↔ Source.IsBasic entry.key := by
  intro scanned exports
  have hready : before.Ready index :=
    ⟨hreached.grounded, (Array.getElem?_eq_some_iff.mp hfresh).1⟩
  have hmodules : Declared (files.map (·.2)).flatten (exports.map Export.entry) := by
    have hscan := declared_flatten (List.forall_mem_map.mpr hdeclared)
    rw [List.flatMap_map] at hscan
    rwa [entry_number, List.flatMap_map]
  obtain ⟨hfilled, _, ⟨more, hpath, rfl⟩, hentries⟩ :=
    Surroundings.execute_gives hquiet hready hmodules labels after hexecuted
  constructor
  · have hholds := (hreached.path.trans hpath).holds (Array.getElem?_eq_getElem hfilled.exist)
    refine ⟨_, Array.getElem?_eq_getElem hfilled.exist, hholds.agrees ?_⟩
    rw [List.filterMap_append, (hreached.path.holds hfresh).filterMap_eq_nil hempty,
      List.nil_append, hentries hlabels]
  · intro runtimeModule directory source hrender
    obtain ⟨contributing, hcontributing, -⟩ := render_eq_ok hrender
    have hlines := (isInfix_of_render hrender hcontributing).1
    rw [flatMap_contributions hcontributing] at hlines
    exact ⟨hlines, fun entry _ => Source.denotes_literal_iff entry.key⟩

/-! ## Two modules that register one key -/

/-- Surroundings in which displays are empty, names are nothing, and definitions return nothing. -/
def Surroundings.plain : Surroundings where
  value
    | .dict _ => Run.create (.dict [])
    | .list _ => Run.create (.list [])
    | _ => pure .null
  spread _ := pure []
  spreadNames _ := pure []
  define _ := Run.create (.callable ⟨[], .null, "B", "B", .function⟩)
  decorate _ value := pure value
  conclude _ _ := pure ()
  other _ := pure ()

theorem Surroundings.quiet_plain (index : Nat) : plain.Quiet index := by
  have hcreate (object : Object) (hpending : ∀ registration, object ≠ .pending registration) :
      Run.Quiet index (Run.create object) := fun before hready =>
    (Run.create_gives hready fun registration h => absurd h (hpending registration)).mono
      fun _ _ _ h => h.2
  refine ⟨fun expression => ?_, fun _ => Run.quiet_pure _, fun _ => Run.quiet_pure _,
    fun _ => hcreate _ (by simp), fun _ _ => Run.quiet_pure _, fun _ _ => Run.quiet_pure _,
    fun _ => Run.quiet_pure _⟩
  cases expression with
  | dict => exact hcreate _ (by simp)
  | list => exact hcreate _ (by simp)
  | _ => exact Run.quiet_pure _

theorem Run.eq_of_toOption {α : Type} {run : Run α} {value : α}
    (h : (run before).1.toOption = some value) : run before = (.ok value, (run before).2) := by
  rcases hrun : run before with ⟨fault | found, last⟩
  · rw [hrun] at h
    cases h
  · rw [hrun] at h
    rw [Option.some.inj h]

theorem EntryCall.ofExpr?_call {kind : ItemKind} {callee : Source.Expr}
    (h : calleeKind? .usual callee = some kind) (line : Nat) (arguments : List Source.Expr)
    (keywords : List (Option String × Source.Expr)) :
    ofExpr? (.call line callee arguments keywords) =
      some ⟨kind, callee, arguments, keywords⟩ := by
  rw [ofExpr?, h, Option.map_some]

/-- A configuration that is assigned, and a decorated hook with its key. -/
def siblingModules : List (Path × Source.Module) :=
  let key : Source.Expr := .constant (.text ("key".toList.map Char.toNat))
  [(⟨.slash, ["s", "p", "a.py"]⟩,
    [.assign [.name "A"] (.call 1 (.name "register_config") [key, .dict []] [])]),
   (⟨.slash, ["s", "p", "q", "__init__.py"]⟩,
    [.functionDef false "B" (.mk [] [] none [] none)
      [.call 1 (.name "register_hook") [key, .list []] []] none [.pass]])]

/-- The key has the hook in the end, as it is listed. -/
theorem siblings_agree :
    let fresh : Term := .perform "c" none (.create true)
    let before := (fresh.eval (Run.callWithin 0) [] .initial).2
    let after := (Surroundings.plain.execute 0 (siblingModules.map (·.2)) before).2
    let exports := siblings.flatMap (·.exports)
    (∃ filled : Container, after.containers[0]? = some filled ∧
      filled.Agrees after.objects exports) ∧
      ∃ source, (render RuntimeName.usual (["s"] ++ ["p", "q"]) siblings).2 = .ok source ∧
        (dependenciesLines (entries exports)).map String.toList <:+: lines source.toList ∧
          ∀ entry ∈ entries exports,
            Source.Denotes (Json.literal entry.key) entry.key ↔ Source.IsBasic entry.key := by
  intro fresh before after exports
  have hscanned : FileExports.number 0 (siblingModules.map fun file =>
      (file.1, (scanModule .usual file.2).registrations)) = siblings := by decide
  have hdeclared : ∀ file ∈ siblingModules, ∃ declared, Declared file.2 declared := by
    have hconfig : calleeKind? .usual (.name "register_config") = some .config := by
      decide
    have hhook : calleeKind? .usual (.name "register_hook") = some .hook := by decide
    refine List.forall_mem_cons.mpr ⟨⟨[("key", .config)], .declares (.assign _ ?_) .nil⟩,
      List.forall_mem_singleton.mpr ⟨[("key", .hook)], .declares (.functionDef _ _ _ _ _ ?_) .nil⟩⟩
    · refine .direct (EntryCall.ofExpr?_call hconfig _ _ _) rfl ?_
      exact ⟨by decide, by decide⟩
    · refine .here (EntryCall.ofExpr?_call hhook _ _ _) rfl ?_ ?_ nofun
      · exact ⟨by decide, by decide⟩
      · exact ⟨by decide, rfl, by simp, nofun⟩
  obtain ⟨history, hreached⟩ := Reached.initial.eval 0 [] fresh
  have hexecuted : Surroundings.plain.execute 0 (siblingModules.map (·.2)) before =
      (.ok [some (.config, "key"), some (.hook, "key")], after) :=
    Run.eq_of_toOption (by decide)
  have hfresh : before.containers[0]? = some (.empty true) := rfl
  have hagrees := executed_agrees 0 (Surroundings.quiet_plain 0) hdeclared hreached hfresh rfl
    hexecuted (by decide)
  rw [hscanned] at hagrees
  obtain ⟨source, hrender⟩ := render_siblings
  exact ⟨hagrees.1, source, hrender, hagrees.2 _ _ source hrender⟩

end Registrar
