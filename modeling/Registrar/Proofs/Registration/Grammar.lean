import Registrar.Proofs.Registration.Exported

/-! # The grammar of registrations

What the scan finds in a module, said without the scan: a key is told by a string literal that is not
empty, or by a name that a statement of the module binds alone to one, and symbols are public by the
list of exported names. The scan finds what the sites of the module make by this grammar, in order,
and nothing else. Names used as keys are bound by no more than one assignment, and the list of exported
names is a literal that no assignment behind its first plain one replaces.
-/

namespace Registrar.Registration

open Source

/-- A statement binds a name, and nothing else, to a string literal. -/
inductive BindsAlone (id : String) (points : List Nat) : Stmt → Prop
  | plain : BindsAlone id points (.assign [.name id] (.constant (.text points)))
  | annotated (hint : Expr) :
      BindsAlone id points (.annAssign (.name id) hint (some (.constant (.text points))))

/-- An expression stands for a key in a module. -/
inductive StandsFor (body : Module) : Expr → String → Prop
  | literal {points : List Nat} : points ≠ [] →
      StandsFor body (.constant (.text points)) (textOfPoints points)
  | name {id : String} {points : List Nat} {statement : Stmt} : statement ∈ body →
      BindsAlone id points statement → points ≠ [] →
      StandsFor body (.name id) (textOfPoints points)

/-- The names that a module uses as keys. -/
def keyNames (entryPoints : EntryPoints) (body : Module) : List String :=
  (body.flatMap sites).filterMap fun site =>
    (call? entryPoints site.symbol site.expression).bind fun call => call.key.bind name?

variable {entryPoints : EntryPoints} {body : Module} {id key : String} {points : List Nat}
  {expression : Expr} {statement : Stmt}

/-! ## Keys -/

theorem joinSurrogates_eq_nil (h : Json.joinSurrogates points = some []) : points = [] := by
  unfold Json.joinSurrogates at h
  split at h
  · rfl
  · split at h
    · obtain ⟨tail, -, htail⟩ := Option.bind_eq_some_iff.mp h
      cases htail
    · split at h
      · cases h
      · obtain ⟨tail, -, htail⟩ := Option.bind_eq_some_iff.mp h
        cases htail
  · split at h <;> cases h

theorem textOfPoints_eq_empty_iff : textOfPoints points = "" ↔ points = [] := by
  constructor
  · intro h
    unfold textOfPoints at h
    split at h
    · next text htext =>
      obtain rfl : text = [] := by simpa using h
      exact joinSurrogates_eq_nil htext
    · simpa using h
  · rintro rfl
    rfl

theorem nonEmpty?_eq_some_iff {text : String} : nonEmpty? text = some key ↔ text = key ∧ text ≠ "" := by
  unfold nonEmpty?
  by_cases htext : text = "" <;> simp [htext]

theorem literal?_eq_some_iff {text : String} : literal? expression = some text ↔
    ∃ points, expression = .constant (.text points) ∧ textOfPoints points = text := by
  constructor
  · intro h
    unfold literal? at h
    split at h
    · exact ⟨_, rfl, Option.some.inj h⟩
    · cases h
  · rintro ⟨points, rfl, rfl⟩
    rfl

/-- A statement gives a name the text of the literal that it binds the name to. -/
theorem textFor?_eq_some_iff {text : String} : textFor? id statement = some text ↔
    ∃ points, BindsAlone id points statement ∧ textOfPoints points = text := by
  constructor
  · intro h
    obtain ⟨⟨name, found⟩, hconstant, hname⟩ := Option.bind_eq_some_iff.mp h
    obtain ⟨rfl, rfl⟩ : name = id ∧ found = text := by simpa using hname
    unfold constant? at hconstant
    split at hconstant
    · obtain ⟨text, htext, hpair⟩ := Option.map_eq_some_iff.mp hconstant
      obtain ⟨rfl, rfl⟩ := Prod.mk.inj hpair
      obtain ⟨points, rfl, rfl⟩ := literal?_eq_some_iff.mp htext
      exact ⟨points, .plain, rfl⟩
    · obtain ⟨text, htext, hpair⟩ := Option.map_eq_some_iff.mp hconstant
      obtain ⟨rfl, rfl⟩ := Prod.mk.inj hpair
      obtain ⟨points, rfl, rfl⟩ := literal?_eq_some_iff.mp htext
      exact ⟨points, .annotated _, rfl⟩
    · cases hconstant
  · rintro ⟨points, hbinds, rfl⟩
    cases hbinds <;> simp [textFor?, constant?, literal?]

/-- A name that is assigned only once has the text of any statement that gives it one. -/
theorem lastText?_eq_some_iff {text : String} (honce : (bindings id body).length ≤ 1) :
    lastText? id body = some text ↔ ∃ statement ∈ body, textFor? id statement = some text := by
  constructor
  · intro h
    obtain ⟨statement, hmem, htext⟩ := List.exists_of_findSome?_eq_some h
    exact ⟨statement, List.mem_reverse.mp hmem, htext⟩
  · rintro ⟨statement, hmem, htext⟩
    obtain ⟨before, after, rfl⟩ := List.append_of_mem hmem
    obtain ⟨value, hvalue, -⟩ := assigned?_of_textFor? htext
    have hafter : ∀ other ∈ after, textFor? id other = none := by
      intro other hother
      rw [Option.eq_none_iff_forall_ne_some]
      intro text htext
      obtain ⟨second, hsecond, -⟩ := assigned?_of_textFor? htext
      have hmem : second ∈ bindings id after := List.mem_filterMap.mpr ⟨other, hother, hsecond⟩
      have hlength := List.length_pos_of_mem hmem
      rw [bindings, List.filterMap_append, List.filterMap_cons_some hvalue, List.length_append,
        List.length_cons] at honce
      rw [bindings] at hlength
      omega
    rw [List.append_cons, lastText?_append hafter, lastText?, List.reverse_concat,
      List.findSome?_cons, htext]

/-- The scan tells the keys that expressions stand for. -/
theorem standsFor_iff (honce : ∀ id, expression = .name id → (bindings id body).length ≤ 1) :
    StandsFor body expression key ↔ Tells body expression key := by
  constructor
  · rintro (hpoints | ⟨hmem, hbinds, hpoints⟩)
    · exact Option.bind_eq_some_iff.mpr
        ⟨_, rfl, nonEmpty?_eq_some_iff.mpr ⟨rfl, textOfPoints_eq_empty_iff.not.mpr hpoints⟩⟩
    · have htext := (lastText?_eq_some_iff (honce _ rfl)).mpr
        ⟨_, hmem, textFor?_eq_some_iff.mpr ⟨_, hbinds, rfl⟩⟩
      exact Option.bind_eq_some_iff.mpr
        ⟨_, htext, nonEmpty?_eq_some_iff.mpr ⟨rfl, textOfPoints_eq_empty_iff.not.mpr hpoints⟩⟩
  · intro h
    have hliteral (h : ((some expression).bind literal?).bind nonEmpty? = some key) :
        StandsFor body expression key := by
      obtain ⟨text, htext, hkey⟩ := Option.bind_eq_some_iff.mp h
      obtain ⟨rfl, hsome⟩ := nonEmpty?_eq_some_iff.mp hkey
      obtain ⟨points, rfl, rfl⟩ := literal?_eq_some_iff.mp htext
      exact .literal (textOfPoints_eq_empty_iff.not.mp hsome)
    cases expression with
    | name id =>
      obtain ⟨text, htext, hkey⟩ := Option.bind_eq_some_iff.mp h
      obtain ⟨rfl, hsome⟩ := nonEmpty?_eq_some_iff.mp hkey
      obtain ⟨statement, hmem, hstatement⟩ := (lastText?_eq_some_iff (honce id rfl)).mp htext
      obtain ⟨points, hbinds, rfl⟩ := textFor?_eq_some_iff.mp hstatement
      exact .name hmem hbinds (textOfPoints_eq_empty_iff.not.mp hsome)
    | _ => exact hliteral h

theorem mem_keyNames {site : Site} {kind : ItemKind} (hsite : site ∈ body.flatMap sites)
    (h : Enters entryPoints kind (.name id) site.expression) : id ∈ keyNames entryPoints body := by
  obtain ⟨line, hcall⟩ := (enters_iff site.symbol).mp h
  exact List.mem_filterMap.mpr ⟨site, hsite, by simp [hcall, name?]⟩

/-! ## The scan and the grammar -/

/-- The scan of a module finds what its sites make, in order, and nothing else. A site makes a
registration if it calls an entry point under a key that is a string literal or a name bound to one,
and the symbol is public by the list of exported names. -/
theorem scanSource?_gathers {source : String} (entryPoints : EntryPoints)
    (hbody : parseModule? source.toList = some body)
    (hkeys : ∀ id ∈ keyNames entryPoints body, (bindings id body).length ≤ 1)
    (hlisted : ∀ value ∈ bindings "__all__" body, (listed? value).isSome)
    (hsettles : Settles body) :
    ∃ scan, scanSource? entryPoints source = some scan ∧ ∀ found,
      Gathers (Site.Makes entryPoints (StandsFor body) (IsPublic (final? body)))
        (body.flatMap sites) found ↔ found = scan.registrations := by
  refine ⟨scanModule entryPoints body, by rw [scanSource?, hbody, Option.map_some], fun found => ?_⟩
  refine gathers_registrations (fun site hsite kind expression henters key => ?_) (fun symbol => ?_)
    found
  · exact standsFor_iff fun id hname => hkeys id (mem_keyNames hsite (hname ▸ henters))
  · rw [← declared?_eq_final? hsettles]
    exact (isExported_iff fun value hvalue =>
      hlisted value (mem_bindings_of_exportValue? hvalue)).symm

/-- A module with a site of each form, of which two make nothing: one has no key that can be told, and
one calls no entry point. -/
def variety : String :=
  "K: str = 'k'\n__all__ = ('f',)\n@register_function('a')\n@app.register_hook(name=K)\n" ++
  "async def f(): pass\n_b: T = register_component('b')(C)\nx = y = register_config(n)\n" ++
  "register_config('c')\nregister('d')\n"

theorem variety_gathers : ∃ body scan, parseModule? variety.toList = some body ∧
    (∀ id ∈ keyNames .usual body, (bindings id body).length ≤ 1) ∧
    (∀ value ∈ bindings "__all__" body, (listed? value).isSome) ∧ Settles body ∧
    scanSource? .usual variety = some scan ∧
    (∀ found, Gathers (Site.Makes .usual (StandsFor body) (IsPublic (final? body)))
      (body.flatMap sites) found ↔ found = scan.registrations) ∧
    scan.registrations = [⟨some "f", "a", .function⟩, ⟨some "f", "k", .hook⟩,
      ⟨none, "b", .component⟩, ⟨none, "c", .config⟩] := by
  have hmodule : ∃ body ∈ parseModule? variety.toList,
      (∀ id ∈ keyNames .usual body, (bindings id body).length ≤ 1) ∧
      (∀ value ∈ bindings "__all__" body, (listed? value).isSome) ∧ Settles body ∧
      (scanModule .usual body).registrations = [⟨some "f", "a", .function⟩, ⟨some "f", "k", .hook⟩,
        ⟨none, "b", .component⟩, ⟨none, "c", .config⟩] := by decide +kernel
  obtain ⟨body, hbody, hkeys, hlisted, hsettles, hfound⟩ := hmodule
  obtain ⟨scan, hscan, hgathers⟩ := scanSource?_gathers .usual hbody hkeys hlisted hsettles
  obtain rfl : scanModule .usual body = scan := by
    simpa [scanSource?, Option.mem_def.mp hbody] using hscan
  exact ⟨body, _, hbody, hkeys, hlisted, hsettles, hscan, hgathers, hfound⟩

end Registrar.Registration
