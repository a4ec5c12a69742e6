import GatewaySync.Proofs.Cloud
import GatewaySync.Proofs.Delays
import GatewaySync.Proofs.Trace
/-!
# Retry delays

The failures of an object are counted outside the store, under the text of its key. Passes and errors of
any number of objects may follow each other in any order: the delay before the next attempt is told by the
failures of the same object alone, since the last pass that had nothing left to do for it.
-/
namespace GatewaySync

section

theorem Kind.ofName?_name (k : Kind) : Kind.ofName? k.name = some k := by
  rcases k with kind | _
  · cases kind <;> decide +kernel
  · decide +kernel

theorem Kind.name_injective : Function.Injective Kind.name := fun k k' same =>
  Option.some.inj (k.ofName?_name.symm.trans ((congrArg Kind.ofName? same).trans k'.ofName?_name))

theorem Kind.slash_notMem_name (k : Kind) : '/' ∉ k.name.toList := by
  rcases k with kind | _
  · cases kind <;> decide
  · decide

/-- Namespace and name are without the sign that separates them in texts. -/
structure Key.Plain (k : Key) : Prop where
  ns : '/' ∉ k.ns.toList
  name : '/' ∉ k.name.toList

def Key.parts (k : Key) : List (List Char) := [k.kind.name.toList, k.ns.toList, k.name.toList]

variable {k k' : Key}

theorem Key.Plain.splitOn_text (plain : k.Plain) : k.text.toList.splitOn '/' = k.parts := by
  have joined : k.text.toList = ['/'].intercalate k.parts := by
    simp [Key.text, Key.parts, List.intercalate]
  rw [joined]
  refine List.splitOn_intercalate '/' ?_ (by simp [Key.parts])
  simp [Key.parts, plain.ns, plain.name, k.kind.slash_notMem_name]

theorem Key.Plain.text_inj (plain : k.Plain) (plain' : k'.Plain) : k.text = k'.text ↔ k = k' := by
  refine ⟨fun same => ?_, congrArg _⟩
  have parts : k.parts = k'.parts := by rw [← plain.splitOn_text, ← plain'.splitOn_text, same]
  obtain ⟨kind, ns, name⟩ := k
  obtain ⟨kind', ns', name'⟩ := k'
  simp only [Key.parts, List.cons.injEq, String.toList_inj, and_true] at parts
  obtain ⟨names, rfl, rfl⟩ := parts
  rw [Kind.name_injective names]

end

/-- A failure that is neither a write conflict nor about a reference that has to change first. -/
def SyncError.counted (e : SyncError) : Bool := !e.isWriteConflict && !e.awaitsReferenceChange

namespace Reconcile

open Pass World

variable {σ : Type}

section

variable (env : Environment σ)

theorem get_backoff (k : Key) (w : World σ) : (w.get env k).2.backoff = w.backoff :=
  Act.after_backoff env (.read k) w

theorem runOn_sync_backoff (o : Object) (w : World σ) :
    (runOn (sync env) o w).2.backoff = w.backoff := by
  obtain ⟨_, r, o', m, w', run, course, -⟩ := sync_course env o w
  obtain ⟨_, _, heeds, -⟩ := course.heeds rfl
  rw [runOn, run]
  exact heeds.backoff

theorem runOn_cleanup_backoff (o : Object) (w : World σ) :
    (runOn (cleanup env) o w).2.backoff = w.backoff := by
  obtain ⟨_, r, o', w', run, course⟩ := cleanup_course env o w
  obtain ⟨_, _, heeds, -⟩ := course.heeds rfl
  rw [runOn, run]
  exact heeds.backoff

end

/-- What the sync of a pass comes to, if the pass finds an object to sync. -/
def outcome? (env : Environment σ) (k : Key) (w : World σ) : Option (Except SyncError Outcome) :=
  match w.get env k with
  | (.ok (some (.managed o)), w₁) => if o.need = .sync then some (runOn (sync env) o w₁).1 else none
  | _ => none

/-- How a pass ends that came to the given outcome, if it had to sync, and to the given world. -/
inductive Ending (settings : OperatorSettings) (k : Key) (v : World σ) :
    Option (Except SyncError Outcome) → Except SyncError Action × World σ → Prop
  | failed (e : SyncError) : Ending settings k v none (.error e, v)
  | done : Ending settings k v none (.ok .awaitChange, settle k v)
  | synced : Ending settings k v (some (.ok .synced)) (.ok (.requeue settings.syncPeriod), settle k v)
  | unsynced {r : Except SyncError Outcome} (unsynced : r ≠ .ok .synced) :
      Ending settings k v (some r) (r.map (nextLook settings), v)

theorem pass_ending (env : Environment σ) (settings : OperatorSettings) (kind : ManagedKind)
    (ns name : String) (w : World σ) :
    ∃ v : World σ, v.backoff = w.backoff ∧ Ending settings ⟨kind, ns, name⟩ v
      (outcome? env ⟨kind, ns, name⟩ w) (pass env settings kind ns name w) := by
  have first := get_backoff env ⟨kind, ns, name⟩ w
  unfold outcome? pass
  dsimp only
  rcases read : w.get env ⟨kind, ns, name⟩ with ⟨e | _ | o | p, w₁⟩ <;> rw [read] at first
  · exact ⟨w₁, first, .failed e⟩
  · exact ⟨w₁, first, .done⟩
  · have key : o.key = ⟨kind, ns, name⟩ := Reads.key ⟨_, read, rfl⟩
    dsimp only [Option.bind_some, Resource.object?]
    cases need : o.need with
    | nothing => exact ⟨w₁, first, .done⟩
    | cleanup =>
      have kept := (runOn_cleanup_backoff env o w₁).trans first
      dsimp only
      rcases run : runOn (cleanup env) o w₁ with ⟨e | _, w₂⟩ <;> rw [run] at kept
      · exact ⟨w₂, kept, .failed e⟩
      · exact ⟨w₂, kept, .done⟩
    | sync =>
      have kept := (runOn_sync_backoff env o w₁).trans first
      dsimp only
      rw [if_pos rfl]
      rcases run : runOn (sync env) o w₁ with ⟨e | _ | _ | _, w₂⟩ <;> rw [run] at kept
      · exact ⟨w₂, kept, .unsynced (by simp)⟩
      · rw [key]
        exact ⟨w₂, kept, .synced⟩
      · exact ⟨w₂, kept, .unsynced (by simp)⟩
      · exact ⟨w₂, kept, .unsynced (by simp)⟩
  · exact ⟨w₁, first, .done⟩

namespace Visit

variable (env : Environment σ) (v : Visit σ)

/-- The pass had nothing left to do: the entity is up to date, or there is nothing to do until the object
changes. -/
def Finished : Prop :=
  v.result = .ok .awaitChange ∨ outcome? env v.key v.before = some (.ok .synced)

/-- The object went away while the pass stored its finalizer and owner. -/
def Overtaken : Prop := outcome? env v.key v.before = some (.ok .gone)

instance : Decidable (v.Finished env) := inferInstanceAs (Decidable (_ ∨ _))

instance : Decidable (v.Overtaken env) := inferInstanceAs (Decidable (_ = _))

end Visit

/-- A pass that is finished, and was not overtaken, forgets the failures of its object. Any other pass
leaves all failures as they were. -/
theorem visit_backoff (env : Environment σ) (settings : OperatorSettings) (kind : ManagedKind)
    (ns name : String) (w : World σ) {v : Visit σ} (made : visit env settings kind ns name w = v) :
    (v.Finished env ∧ ¬ v.Overtaken env) ∧ v.after.backoff = w.backoff.reset v.key.text ∨
      ¬ (v.Finished env ∧ ¬ v.Overtaken env) ∧ v.after.backoff = w.backoff := by
  subst made
  obtain ⟨v, kept, ending⟩ := pass_ending env settings kind ns name w
  unfold Visit.Finished Visit.Overtaken
  dsimp only [visit, Visit.key]
  generalize outcome? env ⟨kind, ns, name⟩ w = r at ending ⊢
  generalize pass env settings kind ns name w = p at ending ⊢
  cases ending with
  | failed e => exact .inr ⟨by simp, kept⟩
  | done => exact .inl ⟨by simp, congrArg (Backoff.reset · _) kept⟩
  | synced => exact .inl ⟨by simp, congrArg (Backoff.reset · _) kept⟩
  | @unsynced r unsynced =>
    refine .inr ⟨?_, kept⟩
    rcases r with e | _ | _ | _ <;> simp_all [Except.map, nextLook]

/-- What a controller does: a pass, or the choice of what follows an error. -/
inductive Event (σ : Type) where
  | visit (v : Visit σ)
  | error (key : Key) (e : SyncError) (answer : Action)

namespace Event

def key : Event σ → Key
  | visit v => v.key
  | error key _ _ => key

def Ends (env : Environment σ) (k : Key) : Event σ → Prop
  | visit v => v.key = k ∧ v.Finished env ∧ ¬ v.Overtaken env
  | error .. => False

def Fails (k : Key) : Event σ → Prop
  | visit _ => False
  | error key e _ => key = k ∧ e.counted = true

instance (env : Environment σ) (k : Key) : DecidablePred (Ends env k) := fun
  | visit _ => inferInstanceAs (Decidable (_ ∧ _))
  | error .. => inferInstanceAs (Decidable False)

instance (k : Key) : DecidablePred (Fails k : Event σ → Prop) := fun
  | visit _ => inferInstanceAs (Decidable False)
  | error .. => inferInstanceAs (Decidable (_ ∧ _))

end Event

/-- The counted failures of an object since its last attempt ended. -/
def failuresSince (env : Environment σ) (k : Key) (events : List (Event σ)) : Nat :=
  (events.reverse.takeWhile fun x => ¬ x.Ends env k).countP fun x => x.Fails k

theorem failuresSince_concat (env : Environment σ) (k : Key) (events : List (Event σ))
    (x : Event σ) :
    failuresSince env k (events ++ [x]) =
      if x.Ends env k then 0
      else failuresSince env k events + if x.Fails k then 1 else 0 := by
  unfold failuresSince
  rw [List.reverse_append, List.reverse_singleton, List.singleton_append, List.takeWhile_cons]
  split_ifs <;> simp_all

variable (env : Environment σ) (settings : OperatorSettings)

/-- The runs of passes and errors from a world, in any order and of any objects: the events, and the
world that they led to. What happens in between is bound only by a relation. -/
inductive Journal (others : World σ → World σ → Prop) (start : World σ) :
    List (Event σ) → World σ → Prop
  | begin : Journal others start [] start
  | meanwhile {events : List (Event σ)} {w w' : World σ} (h : Journal others start events w)
      (change : others w w') : Journal others start events w'
  | pass {events : List (Event σ)} {w : World σ} (h : Journal others start events w)
      (kind : ManagedKind) (ns name : String) :
      Journal others start (events ++ [.visit (visit env settings kind ns name w)])
        (visit env settings kind ns name w).after
  | error {events : List (Event σ)} {w : World σ} (h : Journal others start events w) (key : Key)
      (e : SyncError) :
      Journal others start (events ++ [.error key e (onError settings key e w.backoff).1])
        { w with backoff := (onError settings key e w.backoff).2 }

variable {env settings} {others : World σ → World σ → Prop} {start w : World σ}
  {events : List (Event σ)} {b : Backoff} {key : Key} {e : SyncError}

theorem onError_counted (counted : e.counted = true) (b : Backoff) :
    onError settings key e b =
      (.requeue (Backoff.delay settings.errorBackoffInitial settings.errorBackoffMax (b.count key.text)),
        (b.next settings.errorBackoffInitial settings.errorBackoffMax key.text).2) := by
  simp only [SyncError.counted, Bool.and_eq_true, Bool.not_eq_true'] at counted
  simp [onError, counted, Backoff.next]

theorem onError_uncounted (uncounted : e.counted = false) (b : Backoff) :
    (onError settings key e b).2 = b := by
  unfold onError
  split_ifs with conflict awaits
  · rfl
  · rfl
  · simp [SyncError.counted, conflict, awaits] at uncounted

/-- The backoff holds the failures of an object since its last attempt ended, as far as a word can count. -/
def Counts (env : Environment σ) (k : Key) (events : List (Event σ)) (b : Backoff) : Prop :=
  (b.count k.text).toNat = min (failuresSince env k events) (2 ^ 32 - 1)

theorem counts_visit {k : Key} (plain : k.Plain) {v : Visit σ} (plain' : v.key.Plain)
    {kind : ManagedKind} {ns name : String} (made : visit env settings kind ns name w = v)
    (h : Counts env k events w.backoff) : Counts env k (events ++ [.visit v]) v.after.backoff := by
  unfold Counts at h ⊢
  rw [failuresSince_concat]
  rcases visit_backoff env settings kind ns name w made with ⟨ends, forgot⟩ | ⟨goes, kept⟩
  · rw [forgot, Backoff.count_reset]
    by_cases same : v.key = k
    · simp [Event.Ends, same, ends]
    · have other : k.text ≠ v.key.text := fun h => same ((plain.text_inj plain').mp h).symm
      simp [Event.Ends, Event.Fails, same, other, h]
  · have goes : ¬ Event.Ends env k (.visit v) := fun ends => goes ends.2
    simp [goes, Event.Fails, kept, h]

theorem counts_error {k : Key} (plain : k.Plain) (plain' : key.Plain)
    (h : Counts env k events b) (answer : Action) :
    Counts env k (events ++ [.error key e answer]) (onError settings key e b).2 := by
  have goes : ¬ Event.Ends env k (.error key e answer) := not_false
  unfold Counts at h ⊢
  rw [failuresSince_concat, if_neg goes]
  cases counted : e.counted with
  | false =>
    rw [onError_uncounted counted]
    simp [Event.Fails, counted, h]
  | true =>
    rw [onError_counted counted, Backoff.count_next]
    by_cases same : key = k
    · subst same
      have fails : Event.Fails key (.error key e answer : Event σ) := ⟨rfl, counted⟩
      rw [if_pos rfl, if_pos fails, Backoff.increment_toNat, h]
      omega
    · have other : k.text ≠ key.text := fun h => same ((plain.text_inj plain').mp h).symm
      simp [Event.Fails, same, other, h]

theorem Journal.counts (kept : ∀ w w', others w w' → w'.backoff = w.backoff)
    (fresh : start.backoff = Backoff.empty) (h : Journal env settings others start events w)
    (plain : ∀ x ∈ events, x.key.Plain) {k : Key} (plain' : k.Plain) :
    Counts env k events w.backoff := by
  induction h with
  | begin =>
    rw [fresh]
    rfl
  | meanwhile _ change ih =>
    rw [kept _ _ change]
    exact ih plain
  | pass _ kind ns name ih =>
    obtain ⟨before, last⟩ := List.forall_mem_append.mp plain
    exact counts_visit plain' (last _ (List.mem_singleton_self _)) rfl (ih before)
  | error _ key e ih =>
    obtain ⟨before, last⟩ := List.forall_mem_append.mp plain
    exact counts_error plain' (last _ (List.mem_singleton_self _)) (ih before) _

/-- A counted failure is answered with a delay that doubles with each counted failure of the same object
since its last attempt ended. Nothing else that happens has a part in it. -/
theorem retry_delay (kept : ∀ w w', others w w' → w'.backoff = w.backoff)
    (fresh : start.backoff = Backoff.empty) (h : Journal env settings others start events w)
    (plain : ∀ x ∈ events, x.key.Plain) {before since : List (Event σ)} {answer : Action}
    (split : events = before ++ .error key e answer :: since) (counted : e.counted = true) :
    ∃ delay, answer = .requeue delay ∧ delay.toNat = min settings.errorBackoffMax.toNat
      (settings.errorBackoffInitial.toNat * min (2 ^ failuresSince env key before) (2 ^ 32 - 1)) := by
  induction h generalizing since with
  | begin => simp at split
  | meanwhile _ _ ih => exact ih plain split
  | pass _ kind ns name ih =>
    rcases split_concat split with ⟨-, last, -⟩ | ⟨since', -, earlier⟩
    · cases last
    · exact ih (List.forall_mem_append.mp plain).1 earlier
  | @error events w h key' e' ih =>
    obtain ⟨earlier, last⟩ := List.forall_mem_append.mp plain
    rcases split_concat split with ⟨-, same, rfl⟩ | ⟨since', -, split⟩
    · cases same
      have counts : Counts env key events w.backoff :=
        h.counts kept fresh earlier (last _ (List.mem_singleton_self _))
      unfold Counts at counts
      rw [onError_counted counted]
      exact ⟨_, rfl, by rw [Backoff.delay_toNat, counts, Backoff.min_two_pow_min]⟩
    · exact ih earlier split

section

open Scene

def vanishing : Environment Cloud :=
  Cloud.environment (fun call x => (if call = .patchMetadata webKey then some .vanish else none, x)) id

def blank : SyncError := .emptyResponse .create "KongService" "shop/web"

theorem webKey_plain : webKey.Plain := ⟨by decide, by decide⟩

def webFailure (w : World Cloud) : Event Cloud :=
  .error webKey blank (onError OperatorSettings.default webKey blank w.backoff).1

def failWeb (w : World Cloud) : World Cloud :=
  { w with backoff := (onError OperatorSettings.default webKey blank w.backoff).2 }

def recovery (env : Environment Cloud) : Visit Cloud := webVisit env (failWeb (fresh []))

def troubles : List (Event Cloud) :=
  [webFailure (fresh []), .visit (recovery calm), webFailure (recovery calm).after]

/-- The next failure is answered with twice the initial delay. -/
theorem web_retry_delay :
    ∃ answer w, Journal calm OperatorSettings.default Eq (fresh [])
        (troubles ++ [.error webKey blank answer]) w ∧ failuresSince calm webKey troubles = 1 ∧
      ∃ delay, answer = .requeue delay ∧ delay.toNat = 2 := by
  have run : Journal calm OperatorSettings.default Eq (fresh [])
      (troubles ++ [webFailure (failWeb (recovery calm).after)])
      (failWeb (failWeb (recovery calm).after)) :=
    (((Journal.begin.error webKey blank).pass .service "shop" "web").error webKey blank).error webKey blank
  have plain : ∀ x ∈ troubles ++ [webFailure (failWeb (recovery calm).after)], x.key.Plain := by
    simpa [troubles] using ⟨webKey_plain, webKey_plain, webKey_plain, webKey_plain⟩
  have count : failuresSince calm webKey troubles = 1 := by decide +kernel
  have counted : blank.counted = true := rfl
  have delay := retry_delay (fun w w' same => congrArg _ same.symm) rfl run plain rfl counted
  rw [count] at delay
  exact ⟨_, _, run, count, delay⟩

/-- The service is gone once its finalizer is to be stored. The pass answers that there is nothing to do
until it changes, and still the next failure counts as the second. -/
theorem overtaken_pass_keeps_failures :
    ∃ first second w, Journal vanishing OperatorSettings.default Eq (fresh [])
        [.error webKey blank first, .visit (recovery vanishing), .error webKey blank second] w ∧
      (recovery vanishing).result = .ok .awaitChange ∧
      (recovery vanishing).after.store.findObject? webKey = none ∧
      first = .requeue 1 ∧ second = .requeue 2 :=
  ⟨_, _, failWeb (recovery vanishing).after,
    ((Journal.begin.error webKey blank).pass .service "shop" "web").error webKey blank,
    by decide +kernel, by decide +kernel, by decide +kernel, by decide +kernel⟩

end

end Reconcile

end GatewaySync
