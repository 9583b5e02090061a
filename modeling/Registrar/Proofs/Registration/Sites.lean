import Mathlib.Data.List.Basic
import Registrar.Proofs.Registration.Constants

/-! # Where a module registers

A registration is found at a decorator of a top-level definition, at the value of a top-level
assignment or expression, or at what this value applies. Each of these sites that calls an entry point
under a key that can be told makes one registration, in the order of the sites, and nothing else makes
one. How keys are told and which symbols are public is left open here.
-/

namespace Registrar.Registration

open Source

/-! ## Sites and what they make -/

/-- The name that an expression is. -/
def name? : Expr → Option String
  | .name id => some id
  | _ => none

/-- The name that is the only target of an assignment. -/
def onlyName? : List Expr → Option String
  | [target] => name? target
  | _ => none

/-- An expression that may register an item, with the symbol that its statement binds. -/
structure Site where
  symbol : Option String
  expression : Expr

/-- The sites in the value of a statement: the value, and what it applies. -/
def Site.ofValue (symbol : Option String) : Expr → List Site
  | .call line callee arguments keywords =>
    [⟨symbol, .call line callee arguments keywords⟩, ⟨symbol, callee⟩]
  | value => [⟨symbol, value⟩]

/-- The sites in a statement. -/
def sites : Stmt → List Site
  | .functionDef _ name _ decorators _ _ | .classDef name _ _ decorators _ =>
    decorators.map (⟨some name, ·⟩)
  | .assign targets value => Site.ofValue (onlyName? targets) value
  | .annAssign target _ (some value) => Site.ofValue (name? target) value
  | .evaluate value => Site.ofValue none value
  | _ => []

/-- A callee is called like an entry point for a kind: it is the name, or ends in the attribute. -/
inductive Names (entryPoints : EntryPoints) (kind : ItemKind) : Expr → Prop
  | name {id : String} : entryPoints.kind? id = some kind → Names entryPoints kind (.name id)
  | attribute {attr : String} (value : Expr) : entryPoints.kind? attr = some kind →
      Names entryPoints kind (.attribute value attr)

/-- A call gives its key by an expression: by its first position, else by its keyword `name`. -/
inductive KeyedBy (key : Expr) : List Expr → List (Option String × Expr) → Prop
  | position (more : List Expr) (keywords : List (Option String × Expr)) :
      KeyedBy key (key :: more) keywords
  | keyword {before : List (Option String × Expr)} (after : List (Option String × Expr)) :
      (∀ other ∈ before, other.1 ≠ some "name") →
      KeyedBy key [] (before ++ (some "name", key) :: after)

/-- An expression calls an entry point for a kind, and gives the key by another expression. -/
inductive Enters (entryPoints : EntryPoints) (kind : ItemKind) (key : Expr) : Expr → Prop
  | call (line : Nat) {callee : Expr} {arguments : List Expr}
      {keywords : List (Option String × Expr)} : Names entryPoints kind callee →
      KeyedBy key arguments keywords →
      Enters entryPoints kind key (.call line callee arguments keywords)

/-- What a site makes, where `tells` says which texts expressions tell, and `isPublic` which symbols
are exported. -/
inductive Site.Makes (entryPoints : EntryPoints) (tells : Expr → String → Prop)
    (isPublic : String → Prop) (site : Site) : Registration → Prop
  | named {kind : ItemKind} {expression : Expr} {key symbol : String} :
      Enters entryPoints kind expression site.expression → tells expression key →
      site.symbol = some symbol → isPublic symbol →
      Makes entryPoints tells isPublic site ⟨some symbol, key, kind⟩
  | unnamed {kind : ItemKind} {expression : Expr} {key : String} :
      Enters entryPoints kind expression site.expression → tells expression key →
      (∀ symbol, site.symbol = some symbol → ¬isPublic symbol) →
      Makes entryPoints tells isPublic site ⟨none, key, kind⟩

/-- Some registrations are what some sites make, in order: one for each site that makes one. -/
inductive Gathers (makes : Site → Registration → Prop) : List Site → List Registration → Prop
  | nil : Gathers makes [] []
  | found {site : Site} {sites : List Site} {registration : Registration}
      {registrations : List Registration} : makes site registration →
      Gathers makes sites registrations →
      Gathers makes (site :: sites) (registration :: registrations)
  | passed {site : Site} {sites : List Site} {registrations : List Registration} :
      (∀ registration, ¬makes site registration) → Gathers makes sites registrations →
      Gathers makes (site :: sites) registrations

/-! ## The scan goes by sites -/

variable {entryPoints : EntryPoints} {kind : ItemKind} {key expression : Expr} {site : Site}
  {body : Module} {tells : Expr → String → Prop} {isPublic : String → Prop}
  {registration : Registration}

theorem call?_eq_none (h : calleeKind? entryPoints expression ≠ none) (symbol : Option String) :
    call? entryPoints symbol expression = none := by
  cases expression with
  | call => exact absurd rfl h
  | _ => rfl

/-- Of a value and what it applies, at most one calls an entry point. -/
theorem valueCall?_eq (symbol : Option String) (value : Expr) :
    (valueCall? entryPoints symbol value).toList =
      (Site.ofValue symbol value).filterMap fun site =>
        call? entryPoints site.symbol site.expression := by
  cases value with
  | call line callee arguments keywords =>
    cases hkind : calleeKind? entryPoints callee with
    | none =>
      have hvalue : call? entryPoints symbol (.call line callee arguments keywords) = none := by
        simp [call?, hkind]
      cases hcallee : call? entryPoints symbol callee <;>
        simp [valueCall?, Site.ofValue, hvalue, hcallee]
    | some kind =>
      have hcallee : call? entryPoints symbol callee = none := call?_eq_none (by simp [hkind]) symbol
      cases hvalue : call? entryPoints symbol (.call line callee arguments keywords) <;>
        simp [valueCall?, Site.ofValue, hvalue, hcallee]
  | _ => rfl

theorem calls_eq (statement : Stmt) :
    calls entryPoints statement = (sites statement).filterMap fun site =>
      call? entryPoints site.symbol site.expression := by
  cases statement with
  | functionDef | classDef => simp [calls, sites, List.filterMap_map]
  | assign targets value =>
    rw [sites, ← valueCall?_eq]
    rcases targets with _ | ⟨target, _ | _⟩
    · rfl
    · cases target <;> rfl
    · simp only [calls, onlyName?]
  | annAssign target hint value =>
    cases value with
    | none => rfl
    | some value =>
      rw [sites, ← valueCall?_eq]
      cases target <;> rfl
  | evaluate value => exact valueCall?_eq none value
  | _ => rfl

/-- What a site makes, by functions that tell keys and public symbols. -/
def Site.record? (entryPoints : EntryPoints) (told? : Option Expr → Option String)
    (shows : String → Bool) (site : Site) : Option Registration :=
  (call? entryPoints site.symbol site.expression).bind fun call =>
    (told? call.key).map fun key => ⟨call.symbol.filter shows, key, call.kind⟩

theorem scanModule_eq (entryPoints : EntryPoints) (body : Module) :
    (scanModule entryPoints body).registrations = (body.flatMap sites).filterMap
      (Site.record? entryPoints (keyIn? body) (isExported · (exportedNames body))) := by
  have hcalls : body.flatMap (calls entryPoints) = (body.flatMap sites).filterMap fun site =>
      call? entryPoints site.symbol site.expression := by
    simp only [List.filterMap_flatMap, ← calls_eq]
  unfold scanModule Site.record?
  simp only [hcalls, List.filterMap_filterMap, resolveKey?_eq]

/-! ## What is found and what is not -/

theorem names_iff {callee : Expr} :
    Names entryPoints kind callee ↔ calleeKind? entryPoints callee = some kind := by
  constructor
  · rintro (hkind | ⟨_, hkind⟩) <;> exact hkind
  · intro hkind
    cases callee with
    | name id => exact .name hkind
    | «attribute» value attr => exact .attribute value hkind
    | _ => cases hkind

theorem keyedBy_iff {arguments : List Expr} {keywords : List (Option String × Expr)} :
    KeyedBy key arguments keywords ↔ keyExpression? arguments keywords = some key := by
  constructor
  · rintro (_ | ⟨after, hbefore⟩)
    · rfl
    · exact List.lookup_eq_some_iff.mpr ⟨_, after, rfl, fun other hother => by
        simpa using Ne.symm (hbefore other hother)⟩
  · intro hkey
    cases arguments with
    | nil =>
      obtain ⟨before, after, rfl, hbefore⟩ := List.lookup_eq_some_iff.mp hkey
      exact .keyword after fun other hother => by simpa using Ne.symm (bne_iff_ne.mp (hbefore other hother))
    | cons first more =>
      cases hkey
      exact .position more keywords

theorem enters_iff (symbol : Option String) :
    Enters entryPoints kind key expression ↔ ∃ line,
      call? entryPoints symbol expression = some ⟨symbol, line, kind, some key⟩ := by
  constructor
  · rintro ⟨line, hnames, hkeyed⟩
    refine ⟨line, ?_⟩
    rw [call?, names_iff.mp hnames, keyedBy_iff.mp hkeyed]
    rfl
  · rintro ⟨line, hcall⟩
    cases expression with
    | call found callee arguments keywords =>
      obtain ⟨kind, hkind, hcall⟩ := Option.map_eq_some_iff.mp hcall
      simp only [Call.mk.injEq] at hcall
      obtain ⟨-, rfl, rfl, hkey⟩ := hcall
      exact .call _ (names_iff.mpr hkind) (keyedBy_iff.mpr hkey)
    | _ => cases hcall

theorem call?_symbol {symbol : Option String} {call : Call}
    (h : call? entryPoints symbol expression = some call) : call.symbol = symbol := by
  cases expression with
  | call =>
    obtain ⟨kind, -, rfl⟩ := Option.map_eq_some_iff.mp h
    rfl
  | _ => cases h

/-- A site makes what its record says. -/
theorem makes_iff {told? : Option Expr → Option String} {shows : String → Bool}
    (hnone : told? none = none)
    (htells : ∀ kind expression, Enters entryPoints kind expression site.expression →
      ∀ key, tells expression key ↔ told? (some expression) = some key)
    (hpublic : ∀ symbol, isPublic symbol ↔ shows symbol = true) :
    site.Makes entryPoints tells isPublic registration ↔
      site.record? entryPoints told? shows = some registration := by
  have hrecord {kind : ItemKind} {expression : Expr} {key : String}
      (henters : Enters entryPoints kind expression site.expression) (hkey : tells expression key) :
      site.record? entryPoints told? shows = some ⟨site.symbol.filter shows, key, kind⟩ := by
    obtain ⟨line, hcall⟩ := (enters_iff site.symbol).mp henters
    simp [Site.record?, hcall, (htells _ _ henters key).mp hkey]
  constructor
  · rintro (⟨henters, hkey, hsymbol, hshown⟩ | ⟨henters, hkey, hhidden⟩)
    · rw [hrecord henters hkey, hsymbol, Option.filter_some_pos ((hpublic _).mp hshown)]
    · rw [hrecord henters hkey]
      congr 2
      exact Option.filter_eq_none_iff.mpr fun symbol hsymbol hshown =>
        hhidden symbol hsymbol ((hpublic symbol).mpr hshown)
  · intro h
    obtain ⟨⟨symbol, line, kind, key?⟩, hcall, h⟩ := Option.bind_eq_some_iff.mp h
    obtain ⟨key, htold, rfl⟩ := Option.map_eq_some_iff.mp h
    obtain rfl : symbol = site.symbol := call?_symbol hcall
    cases key? with
    | none => rw [hnone] at htold; cases htold
    | some expression =>
      have henters := (enters_iff site.symbol).mpr ⟨line, hcall⟩
      have hkey := (htells _ _ henters key).mpr htold
      cases hshown : site.symbol.filter shows with
      | none =>
        rw [Option.filter_eq_none_iff] at hshown
        exact .unnamed henters hkey fun symbol hsymbol hpublished =>
          hshown symbol hsymbol ((hpublic symbol).mp hpublished)
      | some symbol =>
        rw [Option.filter_eq_some_iff] at hshown
        exact .named henters hkey hshown.1 ((hpublic symbol).mpr hshown.2)

/-- What some sites make are their records. -/
theorem gathers_iff {makes : Site → Registration → Prop} {record? : Site → Option Registration}
    {sites : List Site} {found : List Registration}
    (hmakes : ∀ site ∈ sites, ∀ registration, makes site registration ↔
      record? site = some registration) :
    Gathers makes sites found ↔ sites.filterMap record? = found := by
  constructor
  · intro hfound
    induction hfound with
    | nil => rfl
    | found hmade _ ih =>
      rw [List.filterMap_cons_some ((hmakes _ List.mem_cons_self _).mp hmade),
        ih fun site hsite => hmakes site (List.mem_cons_of_mem _ hsite)]
    | passed hnone _ ih =>
      rw [List.filterMap_cons_none, ih fun site hsite => hmakes site (List.mem_cons_of_mem _ hsite)]
      exact Option.eq_none_iff_forall_ne_some.mpr fun registration hrecord =>
        hnone registration ((hmakes _ List.mem_cons_self _).mpr hrecord)
  · rintro rfl
    induction sites with
    | nil => exact .nil
    | cons site sites ih =>
      have hrest := ih fun site hsite => hmakes site (List.mem_cons_of_mem _ hsite)
      have hsite := hmakes site List.mem_cons_self
      cases hrecord : record? site with
      | none =>
        rw [List.filterMap_cons_none hrecord]
        exact .passed (fun registration hmade => by
          rw [(hsite registration).mp hmade] at hrecord; cases hrecord) hrest
      | some registration =>
        rw [List.filterMap_cons_some hrecord]
        exact .found ((hsite registration).mpr hrecord) hrest

/-- A scan returns what the sites of the module make, once it is known how keys are told and which
symbols are public. -/
theorem gathers_registrations
    (htells : ∀ site ∈ body.flatMap sites, ∀ kind expression,
      Enters entryPoints kind expression site.expression →
      ∀ key, tells expression key ↔ keyIn? body (some expression) = some key)
    (hpublic : ∀ symbol, isPublic symbol ↔ isExported symbol (exportedNames body) = true)
    (found : List Registration) :
    Gathers (Site.Makes entryPoints tells isPublic) (body.flatMap sites) found ↔
      found = (scanModule entryPoints body).registrations := by
  rw [scanModule_eq, eq_comm]
  exact gathers_iff fun site hsite registration => makes_iff rfl (htells site hsite) hpublic

end Registrar.Registration
