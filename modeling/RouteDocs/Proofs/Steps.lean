import Mathlib.Data.List.Forall2
import RouteDocs.OrderedMap

namespace RouteDocs

/-!
# Successful steps

`Yields` says that a step of a stateful program that may fail succeeds, with the value and the state
it ends in. A sequence of steps succeeds exactly if each of them does from where the one before it
ended. With these laws a program is opened once, and every later argument is about values and
states only.
-/

variable {ε τ α β : Type}

theorem exists_ok {result : Except ε α} (succeeds : result.toOption.isSome = true) :
    ∃ value, result = .ok value := by
  cases result with
  | error failure => cases succeeds
  | ok value => exact ⟨value, rfl⟩

/-- A step succeeds: from one state it gives a value and another state. -/
def Yields (step : ExceptT ε (StateM τ) α) (pre : τ) (value : α) (post : τ) : Prop :=
  step.run.run pre = (.ok value, post)

variable {pre post : τ} {result : PUnit} {step : α -> ExceptT ε (StateM τ) PUnit}
  {items : List α}

@[simp] theorem yields_pure {value result : α} :
    Yields (pure value : ExceptT ε (StateM τ) α) pre result post ↔ result = value /\ post = pre := by
  constructor
  · intro yields
    cases yields
    exact ⟨rfl, rfl⟩
  · rintro ⟨rfl, rfl⟩
    rfl

@[simp] theorem yields_throw {failure : ε} {result : α} :
    Yields (throw failure : ExceptT ε (StateM τ) α) pre result post ↔ False := by
  constructor
  · intro yields
    cases yields
  · exact False.elim

@[simp] theorem yields_get {result : τ} : Yields (get : ExceptT ε (StateM τ) τ) pre result post ↔
      result = pre /\ post = pre :=
  yields_pure

@[simp] theorem yields_set {state : τ} :
    Yields (set state : ExceptT ε (StateM τ) PUnit) pre result post ↔ post = state := by
  constructor
  · intro yields
    cases yields
    rfl
  · rintro rfl
    rfl

@[simp] theorem yields_modify {change : τ -> τ} :
    Yields (modify change : ExceptT ε (StateM τ) PUnit) pre result post ↔ post = change pre :=
  @yields_set _ _ pre _ _ _

theorem run_bind (step : ExceptT ε (StateM τ) α) (next : α -> ExceptT ε (StateM τ) β) (pre : τ) :
    (step >>= next).run.run pre = match step.run.run pre with
      | (.ok value, mid) => (next value).run.run mid
      | (.error failure, mid) => (.error failure, mid) := by
  change (step.run.run pre >>= fun (answer, mid) =>
    (ExceptT.bindCont next answer).run mid : Id _) = _
  cases ran : (step.run.run pre : Except ε α × τ) with
  | mk answer mid => cases answer <;> rfl

@[simp] theorem yields_bind {step : ExceptT ε (StateM τ) α} {next : α -> ExceptT ε (StateM τ) β}
    {result : β} : Yields (step >>= next) pre result post ↔ ∃ value mid, Yields step pre value mid /\
        Yields (next value) mid result post := by
  unfold Yields
  rw [run_bind]
  constructor
  · intro ran
    split at ran
    · rename_i value mid first
      exact ⟨value, mid, first, ran⟩
    · cases ran
  · rintro ⟨value, mid, first, second⟩
    rw [first]
    exact second

theorem yields_get_bind {next : τ -> ExceptT ε (StateM τ) β} {result : β} :
    Yields (get >>= next) pre result post ↔ Yields (next pre) pre result post :=
  Iff.rfl

@[simp] theorem yields_map {step : ExceptT ε (StateM τ) α} {f : α -> β} {result : β} :
    Yields (f <$> step) pre result post ↔
      ∃ value, Yields step pre value post /\ result = f value := by
  rw [<- bind_pure_comp, yields_bind]
  constructor
  · rintro ⟨value, mid, first, second⟩
    obtain ⟨rfl, rfl⟩ := yields_pure.mp second
    exact ⟨value, first, rfl⟩
  · rintro ⟨value, first, rfl⟩
    exact ⟨value, post, first, yields_pure.mpr ⟨rfl, rfl⟩⟩

theorem yields_bind_pure {step : ExceptT ε (StateM τ) α} {f : α -> β} {result : β} :
    Yields (step >>= fun value => pure (f value)) pre result post ↔
      ∃ value, Yields step pre value post /\ result = f value := by
  rw [bind_pure_comp, yields_map]

@[simp] theorem yields_forM_nil : Yields (List.forM [] step) pre result post ↔ post = pre := by
  change Yields (pure ⟨⟩) pre result post ↔ post = pre
  rw [yields_pure]
  exact ⟨And.right, fun same => ⟨rfl, same⟩⟩

theorem yields_forM_cons {item : α} : Yields (List.forM (item :: items) step) pre result post ↔
      ∃ mid, Yields (step item) pre ⟨⟩ mid /\ Yields (List.forM items step) mid result post := by
  change Yields (step item >>= fun _ => List.forM items step) pre result post ↔ _
  rw [yields_bind]
  constructor
  · rintro ⟨⟨⟩, mid, first, rest⟩
    exact ⟨mid, first, rest⟩
  · rintro ⟨mid, first, rest⟩
    exact ⟨⟨⟩, mid, first, rest⟩

theorem yields_mapM_cons {step : α -> ExceptT ε (StateM τ) β} {item : α} {results : List β} :
    Yields ((item :: items).mapM step) pre results post ↔
      ∃ value mid others, Yields (step item) pre value mid /\
        Yields (items.mapM step) mid others post /\ results = value :: others := by
  simp only [List.mapM_cons, yields_bind, yields_pure]
  constructor
  · rintro ⟨value, mid, first, others, _, rest, rfl, rfl⟩
    exact ⟨value, mid, others, first, rest, rfl⟩
  · rintro ⟨value, mid, others, first, rest, rfl⟩
    exact ⟨value, mid, first, others, post, rest, rfl, rfl⟩

theorem forM_invariant (inv : τ -> Prop)
    (kept : ∀ item state next, inv state -> Yields (step item) state ⟨⟩ next -> inv next)
    (initial : inv pre) (yields : Yields (List.forM items step) pre result post) : inv post := by
  induction items generalizing pre with
  | nil =>
    rw [yields_forM_nil.mp yields]
    exact initial
  | cons item rest ih =>
    obtain ⟨mid, first, remaining⟩ := yields_forM_cons.mp yields
    exact ih (kept item pre mid initial first) remaining

/-! ## What a step maintains

A step that fails may have changed the state before it failed. An invariant is
maintained by a step if it holds afterwards in either case. -/

/-- A step that starts with the invariant ends with it, whether or not it succeeds, and
a value that it gives is as expected. -/
def Maintains (inv : τ -> Prop) (expected : α -> Prop) (step : ExceptT ε (StateM τ) α) : Prop :=
  ∀ pre, inv pre ->
    inv (step.run.run pre).2 /\ ∀ value, (step.run.run pre).1 = .ok value -> expected value

abbrev Anything (_ : α) : Prop := True

section
variable {inv : τ -> Prop} {expected : α -> Prop} {step : ExceptT ε (StateM τ) α}

theorem maintains_pure {value : α} (asExpected : expected value) :
    Maintains inv expected (pure value : ExceptT ε (StateM τ) α) := by
  intro pre held
  refine ⟨held, fun result same => ?_⟩
  cases same
  exact asExpected

theorem maintains_throw (failure : ε) :
    Maintains inv expected (throw failure : ExceptT ε (StateM τ) α) := by
  intro pre held
  refine ⟨held, fun result same => ?_⟩
  cases same

theorem maintains_throw_bind (failure : ε) (next : α -> ExceptT ε (StateM τ) β) :
    Maintains inv wanted (throw failure >>= next) := by
  intro pre held
  refine ⟨held, fun result same => ?_⟩
  cases same

theorem maintains_get : Maintains inv inv (get : ExceptT ε (StateM τ) τ) := by
  intro pre held
  refine ⟨held, fun result same => ?_⟩
  cases same
  exact held

theorem maintains_set {state : τ} (held : inv state) :
    Maintains inv Anything (set state : ExceptT ε (StateM τ) PUnit) :=
  fun _ _ => ⟨held, fun _ _ => trivial⟩

theorem maintains_modify {change : τ -> τ} (kept : ∀ state, inv state -> inv (change state)) :
    Maintains inv Anything (modify change : ExceptT ε (StateM τ) PUnit) :=
  fun pre held => ⟨kept pre held, fun _ _ => trivial⟩

theorem Maintains.bind {next : α -> ExceptT ε (StateM τ) β} (first : Maintains inv expected step)
    (second : ∀ value, expected value -> Maintains inv wanted (next value)) :
    Maintains inv wanted (step >>= next) := by
  intro pre held
  have here := first pre held
  rw [run_bind]
  cases ran : (step.run.run pre : Except ε α × τ) with
  | mk answer mid =>
    rw [ran] at here
    cases answer with
    | error failure =>
      refine ⟨here.1, fun result same => ?_⟩
      cases same
    | ok value => exact second value (here.2 value rfl) mid here.1

theorem Maintains.yielding {implied : α -> Prop} (maintained : Maintains inv expected step)
    (yielded : ∀ {pre value post}, Yields step pre value post -> implied value) :
    Maintains inv (fun value => expected value /\ implied value) step :=
  fun pre held => ⟨(maintained pre held).1, fun value same =>
    ⟨(maintained pre held).2 value same, yielded (Prod.ext same rfl)⟩⟩

theorem maintains_ite {condition : Prop} [Decidable condition]
    {first second : ExceptT ε (StateM τ) α} (one : Maintains inv expected first)
    (other : Maintains inv expected second) :
    Maintains inv expected (if condition then first else second) := by
  split
  · exact one
  · exact other

theorem maintains_foldlM {step : β -> α -> ExceptT ε (StateM τ) β} {items : List α} {start : β}
    (initial : wanted start)
    (each : ∀ value item, item ∈ items -> wanted value -> Maintains inv wanted (step value item)) :
    Maintains inv wanted (List.foldlM step start items) := by
  induction items generalizing start with
  | nil => exact maintains_pure initial
  | cons item rest ih =>
    rw [List.foldlM_cons]
    refine (each start item (.head _) initial).bind fun value held => ?_
    exact ih held fun value item mem => each value item (.tail _ mem)
end

/-- From every state with the invariant a step succeeds and ends with the invariant, and
the value it gives is as expected. -/
def Succeeds (inv : τ -> Prop) (expected : α -> Prop) (step : ExceptT ε (StateM τ) α) : Prop :=
  ∀ pre, inv pre -> ∃ value post, Yields step pre value post /\ inv post /\ expected value

section
theorem succeeds_pure {value : α} (asExpected : expected value) :
    Succeeds inv expected (pure value : ExceptT ε (StateM τ) α) :=
  fun pre held => ⟨value, pre, yields_pure.mpr ⟨rfl, rfl⟩, held, asExpected⟩

theorem Succeeds.bind {step : ExceptT ε (StateM τ) α} {next : α -> ExceptT ε (StateM τ) β}
    (first : Succeeds inv expected step)
    (second : ∀ value, expected value -> Succeeds inv wanted (next value)) :
    Succeeds inv wanted (step >>= next) := by
  intro pre held
  rcases first pre held with ⟨value, mid, yields, kept, asExpected⟩
  rcases second value asExpected mid kept with ⟨result, post, finished, stillKept, asWanted⟩
  exact ⟨result, post, yields_bind.mpr ⟨value, mid, yields, finished⟩, stillKept, asWanted⟩

theorem succeeds_mapM {step : α -> ExceptT ε (StateM τ) β} {items : List α}
    (each : ∀ item ∈ items, Succeeds inv Anything (step item)) :
    Succeeds inv Anything (items.mapM step) := by
  induction items with
  | nil => exact succeeds_pure trivial
  | cons item rest ih =>
    rw [List.mapM_cons]
    refine (each item (.head _)).bind fun _ _ => ?_
    exact (ih fun item mem => each item (.tail _ mem)).bind fun _ _ => succeeds_pure trivial
end
end RouteDocs

namespace RouteDocs
open List

/-!
## Lists that are related item by item

A walk through a list gives a list of the same length, each item of which is related to
the item it was found for.
-/

variable {α β γ : Type} {related : α -> β -> Prop} {first : List α} {second : List β}

theorem exists_of_forall₂ (held : Forall₂ related first second) :
    (∀ one ∈ first, ∃ other ∈ second, related one other) /\
      ∀ other ∈ second, ∃ one ∈ first, related one other := by
  induction held with
  | nil => simp
  | cons here _ ih =>
    obtain ⟨forward, backward⟩ := ih
    constructor
    · refine forall_mem_cons.mpr ⟨⟨_, .head _, here⟩, fun one mem => ?_⟩
      obtain ⟨other, listed, same⟩ := forward one mem
      exact ⟨other, .tail _ listed, same⟩
    · refine forall_mem_cons.mpr ⟨⟨_, .head _, here⟩, fun other mem => ?_⟩
      obtain ⟨one, listed, same⟩ := backward other mem
      exact ⟨one, .tail _ listed, same⟩

theorem exists_forall₂ (each : ∀ one ∈ first, ∃ other, related one other) :
    ∃ second, Forall₂ related first second := by
  induction first with
  | nil => exact ⟨[], .nil⟩
  | cons one rest ih =>
    obtain ⟨other, here⟩ := each one (.head _)
    obtain ⟨others, later⟩ := ih (forall_mem_cons.mp each).2
    exact ⟨other :: others, .cons here later⟩

theorem forall₂_filter (held : Forall₂ related first second) (chosen : α -> Bool) :
    Forall₂ related (first.filter chosen)
      (((first.zip second).filter fun pair => chosen pair.1).map Prod.snd) := by
  induction held with
  | nil => exact .nil
  | @cons one other _ _ here _ ih =>
    cases selected : chosen one with
    | true =>
      simp only [zip_cons_cons, filter_cons, selected, if_true, map_cons]
      exact .cons here ih
    | false =>
      simpa only [zip_cons_cons, filter_cons, selected, Bool.false_eq_true, if_false] using ih

theorem map_eq_of_forall₂ (held : Forall₂ related first second)
    (each : ∀ one ∈ first, ∀ other, related one other -> f one = g other) :
    first.map f = second.map g := by
  induction held with
  | nil => rfl
  | cons here _ ih =>
    rw [map_cons, map_cons, each _ (.head _) _ here, ih fun one mem => each one (.tail _ mem)]

theorem forall₂_common (one : Forall₂ related first second) (other : Forall₂ related first third) :
    Forall₂ (fun left right => ∃ item, related item left /\ related item right) second third := by
  induction one generalizing third with
  | nil =>
    cases other
    exact .nil
  | cons here _ ih =>
    cases other with
    | cons alsoHere remaining => exact .cons ⟨_, here, alsoHere⟩ (ih remaining)

theorem exists_mem_zip_of_mem_left (sameLength : first.length = second.length)
    (mem : item ∈ first) : ∃ partner, (item, partner) ∈ first.zip second := by
  rw [<- map_fst_zip (Nat.le_of_eq sameLength)] at mem
  rcases mem_map.mp mem with ⟨⟨_, partner⟩, listed, rfl⟩
  exact ⟨partner, listed⟩

theorem forall₂_of_mapM {ε τ : Type} {inv : τ -> Prop} {step : α -> ExceptT ε (StateM τ) β}
    (each : ∀ item ∈ first, ∀ state value next, inv state ->
      Yields (step item) state value next -> inv next /\ related item value)
    {pre post : τ} (held : inv pre) (yields : Yields (first.mapM step) pre second post) :
    inv post /\ Forall₂ related first second := by
  induction first generalizing pre second with
  | nil =>
    obtain ⟨rfl, rfl⟩ := yields_pure.mp yields
    exact ⟨held, .nil⟩
  | cons item rest ih =>
    obtain ⟨value, mid, others, here, remaining, rfl⟩ := yields_mapM_cons.mp yields
    obtain ⟨stillHeld, relates⟩ := each item (.head _) pre value mid held here
    obtain ⟨last, later⟩ := ih (forall_mem_cons.mp each).2 stillHeld remaining
    exact ⟨last, .cons relates later⟩
end RouteDocs
