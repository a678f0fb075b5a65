import Mathlib.Logic.Function.Basic
import Era.Core.Platform
import Era.Core.Result
import Era.Lib.Machine

/-!
# Registering providers

`register` wires a provider to its action types one after the other, and to its identifier at the
end.  An action type that is taken already raises in the middle.
-/

namespace Era.Core

open Era.Lib

/-- What the registry reads from a provider, which may be any object. -/
structure ProviderFields (P : Type*) where
  /-- `to_sync`. -/
  toSync : P → P
  id : P → String
  actionTypes : P → List String

/-- The two dictionaries of `ToolRegistry`. -/
@[ext] structure Wiring (P : Type*) where
  providers : String → Option P := fun _ => none
  byId : String → Option P := fun _ => none

section Registration

variable {P : Type*} (platform : Platform) (fields : ProviderFields P)

/-- The loop of `register` over the action types, with the one at which it raises. -/
def wireTypes (provider : P) :
    (String → Option P) → List String → (String → Option P) × Option String
  | providers, [] => (providers, none)
  | providers, actionType :: rest =>
      if (providers actionType).isSome then (providers, some actionType)
      else wireTypes provider (Function.update providers actionType (some provider)) rest

/-- `ToolRegistry.register`. -/
def Wiring.register (wiring : Wiring P) (registered : P) : Wiring P × Except Raised Unit :=
  let provider := fields.toSync registered
  let taken (what key : String) : Except Raised Unit :=
    .error (.exception "ValueError"
      (what ++ " " ++ platform.reprString key ++ " is already registered"))
  if (wiring.byId (fields.id provider)).isSome then (wiring, taken "provider" (fields.id provider))
  else
    match wireTypes provider wiring.providers (fields.actionTypes provider) with
    | (providers, some actionType) => ({ wiring with providers }, taken "action_type" actionType)
    | (providers, none) =>
        ({ providers
           byId := Function.update wiring.byId (fields.id provider) (some provider) }, .ok ())

def registrations : Machine (Wiring P) P (Except Raised Unit) :=
  { step := Wiring.register platform fields }

/-! ## What is promised -/

/-- Every action type is wired to a provider that is present under its identifier. -/
def Wiring.Present (wiring : Wiring P) : Prop :=
  ∀ actionType provider, wiring.providers actionType = some provider →
    wiring.byId (fields.id provider) = some provider

/-- A call that raises leaves the registry as it was, and after every call each action type is
wired to a provider that is present. -/
structure WiresWhole (wiring : Wiring P) (registered : P) : Prop where
  present : (wiring.register platform fields registered).1.Present fields
  unchanged : ∀ raised, (wiring.register platform fields registered).2 = .error raised →
    (wiring.register platform fields registered).1 = wiring

/-- No action type is taken but the first: not by an earlier provider, and not by the provider
itself. -/
def RefusedFirst (wiring : Wiring P) (registered : P) : Prop :=
  let provider := fields.toSync registered
  (wiring.byId (fields.id provider)).isSome = true ∨
    (∃ actionType, (fields.actionTypes provider).head? = some actionType ∧
      (wiring.providers actionType).isSome = true) ∨
    (fields.actionTypes provider).Nodup ∧
      ∀ actionType ∈ fields.actionTypes provider, wiring.providers actionType = none

/-! ## The loop -/

variable {platform fields} {provider : P}

/-- The loop gets to its end exactly if the action types are free and distinct. -/
theorem wireTypes_none_iff (provider : P) {providers : String → Option P} {types : List String} :
    (wireTypes provider providers types).2 = none ↔
      types.Nodup ∧ ∀ actionType ∈ types, providers actionType = none := by
  induction types generalizing providers with
  | nil => simp [wireTypes]
  | cons first rest ih =>
      cases taken : providers first with
      | some other => simp [wireTypes, taken]
      | none =>
          have later : (∀ actionType ∈ rest,
              Function.update providers first (some provider) actionType = none) ↔
              first ∉ rest ∧ ∀ actionType ∈ rest, providers actionType = none := by
            constructor
            · intro free
              refine ⟨fun again => ?_, fun actionType member => ?_⟩
              · have := free first again
                rw [Function.update_self] at this
                cases this
              · have wired := free actionType member
                by_cases same : actionType = first
                · rw [same, Function.update_self] at wired
                  cases wired
                · rwa [Function.update_of_ne same] at wired
            · rintro ⟨fresh, free⟩ actionType member
              rw [Function.update_of_ne (ne_of_mem_of_not_mem member fresh)]
              exact free actionType member
          simp only [wireTypes, taken, Option.isSome_none, Bool.false_eq_true, if_false, ih, later,
            List.nodup_cons, List.forall_mem_cons, true_and]
          exact ⟨fun ⟨distinct, fresh, free⟩ => ⟨⟨fresh, distinct⟩, free⟩,
            fun ⟨⟨fresh, distinct⟩, free⟩ => ⟨distinct, fresh, free⟩⟩

/-- An action type is wired as before, or to the provider; it stays wired. -/
theorem wireTypes_cases (provider : P) (providers : String → Option P) (types : List String)
    (actionType : String) :
    (wireTypes provider providers types).1 actionType = providers actionType ∨
      providers actionType = none ∧
        (wireTypes provider providers types).1 actionType = some provider := by
  induction types generalizing providers with
  | nil => exact .inl rfl
  | cons first rest ih =>
      unfold wireTypes
      split
      next => exact .inl rfl
      next free =>
        rw [Bool.not_eq_true, Option.isSome_eq_false_iff, Option.isNone_iff_eq_none] at free
        by_cases same : actionType = first
        · obtain kept | ⟨never, -⟩ := ih (Function.update providers first (some provider))
          · rw [same, Function.update_self] at kept
            exact .inr ⟨same ▸ free, same ▸ kept⟩
          · rw [same, Function.update_self] at never
            cases never
        · have other := ih (Function.update providers first (some provider))
          rwa [Function.update_of_ne same] at other

/-- The first action type is wired before any other is looked at. -/
theorem wireTypes_first (provider : P) {providers : String → Option P} {first : String}
    (free : providers first = none) (rest : List String) :
    (wireTypes provider providers (first :: rest)).1 first = some provider := by
  have wired := wireTypes_cases provider
    (Function.update providers first (some provider)) rest first
  rw [Function.update_self] at wired
  rw [wireTypes, if_neg (by simp [free])]
  exact wired.resolve_right fun never => by cases never.1

/-! ## One call -/

/-- A provider that is refused at first leaves the registry as it was. -/
theorem register_refused (platform : Platform) {wiring : Wiring P} {registered : P}
    (refused : (wiring.byId (fields.id (fields.toSync registered))).isSome = true ∨
      ∃ actionType, (fields.actionTypes (fields.toSync registered)).head? = some actionType ∧
        (wiring.providers actionType).isSome = true) :
    (wiring.register platform fields registered).1 = wiring := by
  unfold Wiring.register
  dsimp only
  split
  next => rfl
  next fresh =>
    obtain ⟨first, head, taken⟩ := refused.resolve_left fresh
    obtain ⟨rest, types⟩ := List.head?_eq_some_iff.mp head
    rw [types, wireTypes, if_pos taken]

/-- A provider whose action types are free is wired to them. -/
theorem register_free (platform : Platform) {wiring : Wiring P} {registered : P}
    (fresh : wiring.byId (fields.id (fields.toSync registered)) = none)
    (free : (wireTypes (fields.toSync registered) wiring.providers
      (fields.actionTypes (fields.toSync registered))).2 = none) :
    wiring.register platform fields registered =
      ({ providers := (wireTypes (fields.toSync registered) wiring.providers
          (fields.actionTypes (fields.toSync registered))).1
         byId := Function.update wiring.byId (fields.id (fields.toSync registered))
          (some (fields.toSync registered)) }, .ok ()) := by
  unfold Wiring.register
  dsimp only
  rw [if_neg (by simp [fresh])]
  split
  next stopped => rw [stopped] at free; cases free
  next wired => rw [wired]

/-- A provider that is stopped in the loop leaves what the loop has wired. -/
theorem register_stopped (platform : Platform) {wiring : Wiring P} {registered : P}
    {actionType : String}
    (fresh : wiring.byId (fields.id (fields.toSync registered)) = none)
    (stopped : (wireTypes (fields.toSync registered) wiring.providers
      (fields.actionTypes (fields.toSync registered))).2 = some actionType) :
    (wiring.register platform fields registered).1.providers =
        (wireTypes (fields.toSync registered) wiring.providers
          (fields.actionTypes (fields.toSync registered))).1 ∧
      ∃ raised, (wiring.register platform fields registered).2 = .error raised := by
  unfold Wiring.register
  dsimp only
  rw [if_neg (by simp [fresh])]
  split
  next wired => rw [wired]; exact ⟨rfl, _, rfl⟩
  next wired => rw [wired] at stopped; cases stopped

theorem Wiring.Present.wire {wiring : Wiring P} (present : wiring.Present fields)
    (fresh : wiring.byId (fields.id provider) = none) (types : List String) :
    Wiring.Present fields
      { providers := (wireTypes provider wiring.providers types).1
        byId := Function.update wiring.byId (fields.id provider) (some provider) } := by
  intro actionType other wired
  dsimp only at wired ⊢
  obtain kept | ⟨-, own⟩ := wireTypes_cases provider wiring.providers types actionType
  · rw [kept] at wired
    have there := present actionType other wired
    rw [Function.update_of_ne]
    · exact there
    · intro same
      rw [same, fresh] at there
      cases there
  · rw [own] at wired
    cases wired
    exact Function.update_self ..

theorem wiresWhole_iff {wiring : Wiring P} (present : wiring.Present fields) (registered : P) :
    WiresWhole platform fields wiring registered ↔ RefusedFirst fields wiring registered := by
  constructor
  · intro whole
    by_contra notFirst
    obtain ⟨fresh, firstFree, notFree⟩ :
        (wiring.byId (fields.id (fields.toSync registered))).isSome ≠ true ∧
          (¬∃ actionType, (fields.actionTypes (fields.toSync registered)).head? = some actionType ∧
            (wiring.providers actionType).isSome = true) ∧
          ¬((fields.actionTypes (fields.toSync registered)).Nodup ∧
            ∀ actionType ∈ fields.actionTypes (fields.toSync registered),
              wiring.providers actionType = none) :=
      ⟨fun known => notFirst (.inl known), fun taken => notFirst (.inr (.inl taken)),
        fun free => notFirst (.inr (.inr free))⟩
    rw [Ne, Bool.not_eq_true, Option.isSome_eq_false_iff, Option.isNone_iff_eq_none] at fresh
    rw [← wireTypes_none_iff (fields.toSync registered), ← Ne,
      Option.ne_none_iff_exists'] at notFree
    obtain ⟨actionType, stopped⟩ := notFree
    obtain ⟨providers, raised, failed⟩ := register_stopped platform fresh stopped
    rw [whole.unchanged raised failed] at providers
    cases types : fields.actionTypes (fields.toSync registered) with
    | nil =>
        rw [types] at stopped
        cases stopped
    | cons first rest =>
        -- The first action type is free, and it has been wired in a registry that is unchanged.
        have free : wiring.providers first = none := by
          rw [← Option.isNone_iff_eq_none, ← Option.isSome_eq_false_iff, ← Bool.not_eq_true]
          exact fun taken => firstFree ⟨first, by rw [types]; rfl, taken⟩
        have wired := wireTypes_first (fields.toSync registered) free rest
        rw [← types, ← providers, free] at wired
        cases wired
  · intro first
    by_cases early : (wiring.byId (fields.id (fields.toSync registered))).isSome = true ∨
        ∃ actionType, (fields.actionTypes (fields.toSync registered)).head? = some actionType ∧
          (wiring.providers actionType).isSome = true
    · have same := register_refused platform early
      exact ⟨by rwa [same], fun _ _ => same⟩
    · have free := (or_assoc.mpr first).resolve_left early
      have fresh : wiring.byId (fields.id (fields.toSync registered)) = none := by
        rw [← Option.isNone_iff_eq_none, ← Option.isSome_eq_false_iff, ← Bool.not_eq_true]
        exact fun known => early (.inl known)
      have wired := register_free platform fresh ((wireTypes_none_iff _).mpr free)
      constructor
      · rw [wired]
        exact present.wire fresh _
      · intro raised failed
        rw [wired] at failed
        cases failed

variable (platform fields)

/-- Calls are all or nothing exactly if each of them is refused before it wires anything, or
wires all of its action types. -/
theorem registrations_whole_iff (providers : List P) :
    (registrations platform fields).Admits (WiresWhole platform fields) {} providers ↔
      (registrations platform fields).Admits (RefusedFirst fields) {} providers := by
  have from_present : ∀ wiring : Wiring P, wiring.Present fields →
      ((registrations platform fields).Admits (WiresWhole platform fields) wiring providers ↔
        (registrations platform fields).Admits (RefusedFirst fields) wiring providers) := by
    induction providers with
    | nil => exact fun _ _ => iff_of_true (Machine.admits_nil _ _) (Machine.admits_nil _ _)
    | cons provider rest ih =>
        intro wiring present
        rw [Machine.admits_cons, Machine.admits_cons, wiresWhole_iff present]
        refine and_congr_right fun first => ih _ ?_
        exact ((wiresWhole_iff present provider).mpr first).present
  exact from_present {} fun _ _ none => by cases none

end Registration

namespace Demo

/-- A provider that is its identifier and its action types. -/
def plainFields : ProviderFields (String × List String) :=
  { toSync := id, id := Prod.fst, actionTypes := Prod.snd }

end Demo

/-- A provider whose second action type is taken stays wired to its first. -/
theorem not_registrations_whole :
    ¬(registrations Platform.plain Demo.plainFields).Admits
      (WiresWhole Platform.plain Demo.plainFields) {}
      [("files", ["fs.write"]), ("disk", ["fs.trim", "fs.write"])] := by
  intro whole
  have second := whole [("files", ["fs.write"])] ("disk", ["fs.trim", "fs.write"]) [] rfl
  have present := second.present "fs.trim" ("disk", ["fs.trim", "fs.write"]) (by decide)
  revert present
  decide

end Era.Core
