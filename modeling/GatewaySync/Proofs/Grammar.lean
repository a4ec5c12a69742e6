import GatewaySync.Json.Reader
import GatewaySync.Proofs.Lexing
/-!
# The grammar of JSON

A reader that keeps a stack of open containers finds in a text the value that the grammar has for it, and
none where the grammar has none. The grammar grows a container from its opening bracket on, an item or a
member at a time.
-/
namespace GatewaySync.Json

/-- What tokens spell: a value, or an array or an object that is still open, with or without room for one
more entry. -/
inductive Phrase where
  | value (v : Json)
  | beforeItem (vs : List Json)
  | items (vs : List Json)
  | beforeMember (ms : List (Option String × Json))
  | members (ms : List (Option String × Json))

/-- Members with their keys, where an unreadable key is empty. -/
def named (ms : List (Option String × Json)) : List (String × Json) := ms.map fun (k, v) => (k.getD "", v)

def allNamed (ms : List (Option String × Json)) : Bool := ms.all (·.1.isSome)

/-- The object of some members, which cannot be read if one of its keys cannot. -/
def objectOf (ms : List (Option String × Json)) : Json := if allNamed ms then obj (named ms) else unreadable

inductive Spells (limit : Nat) : Nat → List Token → Phrase → Prop
  | word {depth : Nat} (v : Json) : Spells limit depth [.word v] (.value v)
  | text {depth : Nat} (s : Option String) : Spells limit depth [.text s] (.value (s.elim unreadable str))
  | openArray {depth : Nat} : Spells limit depth [.openArray] (.beforeItem [])
  | item {depth : Nat} {ts us : List Token} {vs : List Json} {v : Json}
      (before : Spells limit depth ts (.beforeItem vs)) (h : Spells limit (depth + 1) us (.value v)) :
      Spells limit depth (ts ++ us) (.items (vs ++ [v]))
  | nextItem {depth : Nat} {ts : List Token} {vs : List Json} (h : Spells limit depth ts (.items vs)) :
      Spells limit depth (ts ++ [.comma]) (.beforeItem vs)
  | array {depth : Nat} {ts : List Token} {vs : List Json} (h : Spells limit depth ts (.items vs)) :
      Spells limit depth (ts ++ [.closeArray]) (.value (closed limit (depth + 1) (arr vs)))
  | emptyArray {depth : Nat} :
      Spells limit depth [.openArray, .closeArray] (.value (closed limit (depth + 1) (arr [])))
  | openObject {depth : Nat} : Spells limit depth [.openObject] (.beforeMember [])
  | member {depth : Nat} {ts us : List Token} {ms : List (Option String × Json)} {k : Option String} {v : Json}
      (before : Spells limit depth ts (.beforeMember ms)) (h : Spells limit (depth + 1) us (.value v)) :
      Spells limit depth (ts ++ .text k :: .colon :: us) (.members (ms ++ [(k, v)]))
  | nextMember {depth : Nat} {ts : List Token} {ms : List (Option String × Json)}
      (h : Spells limit depth ts (.members ms)) : Spells limit depth (ts ++ [.comma]) (.beforeMember ms)
  | object {depth : Nat} {ts : List Token} {ms : List (Option String × Json)}
      (h : Spells limit depth ts (.members ms)) :
      Spells limit depth (ts ++ [.closeObject]) (.value (closed limit (depth + 1) (objectOf ms)))
  | emptyObject {depth : Nat} :
      Spells limit depth [.openObject, .closeObject] (.value (closed limit (depth + 1) (objectOf [])))

def lastKey (ms : List (Option String × Json)) : String := (ms.getLast?.bind (·.1)).getD ""

def memberFrame (ms : List (Option String × Json)) : Frame :=
  .members (named ms).reverse (allNamed ms) (lastKey ms)

def keyFrame (ms : List (Option String × Json)) (k : Option String) : Frame :=
  .members (named ms).reverse (allNamed ms && k.isSome) (k.getD "")

def Phrase.cursor (frames : List Frame) : Phrase → Cursor
  | value v => .accept frames v
  | beforeItem vs => ⟨.items vs.reverse :: frames, if vs.isEmpty then .valueOrEnd else .value, none⟩
  | items vs => ⟨.items vs.reverse :: frames, .separator, none⟩
  | beforeMember ms => ⟨memberFrame ms :: frames, if ms.isEmpty then .keyOrEnd else .key, none⟩
  | members ms => ⟨memberFrame ms :: frames, .separator, none⟩

variable {limit depth : Nat} {frames : List Frame} {c c' : Cursor} {t : Token} {ts us : List Token}
  {p : Phrase} {v : Json} {vs : List Json} {ms : List (Option String × Json)}

def Ready (c : Cursor) : Prop := (c.result.isNone && (c.expect = .value || c.expect = .valueOrEnd)) = true

theorem Cursor.run_append (limit : Nat) (c : Cursor) (ts us : List Token) :
    c.run limit (ts ++ us) = (c.run limit ts).bind fun c => c.run limit us := by
  induction ts generalizing c with
  | nil => rfl
  | cons t ts ih =>
    rw [List.cons_append, run, run, Option.bind_assoc]
    exact congrArg _ (funext fun c => ih c)

theorem Cursor.run_singleton (limit : Nat) (c : Cursor) (t : Token) : c.run limit [t] = c.next limit t := by
  rw [run]
  cases c.next limit t <;> rfl

theorem Spells.items_ne_nil (h : Spells limit depth ts (.items vs)) : vs ≠ [] := by
  cases h
  simp

theorem Spells.members_ne_nil (h : Spells limit depth ts (.members ms)) : ms ≠ [] := by
  cases h
  simp

section Steps

variable (limit : Nat) (frames : List Frame)

theorem Ready.pending (h : Ready c) : c.result = none := Option.isNone_iff_eq_none.mp (Bool.and_eq_true_iff.mp h).1

theorem Ready.word (h : Ready c) (v : Json) : c.next limit (.word v) = some (.accept c.frames v) := if_pos h

theorem Ready.text (h : Ready c) (s : Option String) :
    c.next limit (.text s) = some (.accept c.frames (s.elim unreadable str)) := if_pos h

theorem Ready.openArray (h : Ready c) :
    c.next limit .openArray = some ((Phrase.beforeItem []).cursor c.frames) := if_pos h

theorem Ready.openObject (h : Ready c) :
    c.next limit .openObject = some ((Phrase.beforeMember []).cursor c.frames) := if_pos h

theorem ready_value : Ready ⟨frames, .value, none⟩ := rfl

theorem ready_beforeItem (vs : List Json) : Ready ((Phrase.beforeItem vs).cursor frames) := by
  cases vs <;> rfl

theorem accept_item (vs : List Json) (v : Json) :
    Cursor.accept (.items vs.reverse :: frames) v = (Phrase.items (vs ++ [v])).cursor frames := by
  rw [Phrase.cursor, List.reverse_append]
  rfl

theorem next_nextItem (exist : vs ≠ []) :
    ((Phrase.items vs).cursor frames).next limit .comma = some ((Phrase.beforeItem vs).cursor frames) := by
  cases vs with
  | nil => exact absurd rfl exist
  | cons => rfl

theorem next_array (vs : List Json) :
    ((Phrase.items vs).cursor frames).next limit .closeArray =
      some (.accept frames (closed limit (frames.length + 1) (arr vs))) := by
  change some (Cursor.accept frames (closed limit (frames.length + 1) (arr vs.reverse.reverse))) = _
  rw [List.reverse_reverse]

theorem next_emptyArray :
    ((Phrase.beforeItem []).cursor frames).next limit .closeArray =
      some (.accept frames (closed limit (frames.length + 1) (arr []))) := rfl

theorem next_key (ms : List (Option String × Json)) (k : Option String) :
    ((Phrase.beforeMember ms).cursor frames).next limit (.text k) =
      some ⟨keyFrame ms k :: frames, .colon, none⟩ := by
  cases ms <;> rfl

theorem next_colon : (Cursor.mk frames .colon none).next limit .colon = some ⟨frames, .value, none⟩ := rfl

theorem accept_member (ms : List (Option String × Json)) (k : Option String) (v : Json) :
    Cursor.accept (keyFrame ms k :: frames) v = (Phrase.members (ms ++ [(k, v)])).cursor frames := by
  simp [Cursor.accept, Phrase.cursor, keyFrame, memberFrame, named, allNamed, lastKey]

theorem next_nextMember (exist : ms ≠ []) :
    ((Phrase.members ms).cursor frames).next limit .comma = some ((Phrase.beforeMember ms).cursor frames) := by
  cases ms with
  | nil => exact absurd rfl exist
  | cons => rfl

theorem next_object (ms : List (Option String × Json)) :
    ((Phrase.members ms).cursor frames).next limit .closeObject =
      some (.accept frames (closed limit (frames.length + 1) (objectOf ms))) := by
  change some (Cursor.accept frames (closed limit (frames.length + 1)
    (if allNamed ms then obj (named ms).reverse.reverse else unreadable))) = _
  rw [List.reverse_reverse]
  rfl

theorem next_emptyObject :
    ((Phrase.beforeMember []).cursor frames).next limit .closeObject =
      some (.accept frames (closed limit (frames.length + 1) (objectOf []))) := rfl

end Steps

/-- The reader follows the grammar. -/
theorem Spells.run_eq (h : Spells limit depth ts p) (ready : Ready c) (inside : c.frames.length = depth) :
    c.run limit ts = some (p.cursor c.frames) := by
  induction h generalizing c with
  | word v =>
    rw [Cursor.run_singleton, ready.word]
    rfl
  | text s =>
    rw [Cursor.run_singleton, ready.text]
    rfl
  | openArray => rw [Cursor.run_singleton, ready.openArray]
  | @item depth ts us vs v before h before_ih ih =>
    rw [Cursor.run_append, before_ih ready inside, Option.bind_some,
      ih (ready_beforeItem _ vs) (congrArg (· + 1) inside), ← accept_item]
    rfl
  | nextItem h ih =>
    rw [Cursor.run_append, ih ready inside, Option.bind_some, Cursor.run_singleton,
      next_nextItem _ _ h.items_ne_nil]
  | array h ih =>
    rw [Cursor.run_append, ih ready inside, Option.bind_some, Cursor.run_singleton, next_array, inside]
    rfl
  | emptyArray =>
    rw [Cursor.run, ready.openArray, Option.bind_some, Cursor.run_singleton, next_emptyArray, inside]
    rfl
  | openObject => rw [Cursor.run_singleton, ready.openObject]
  | @member depth ts us ms k v before h before_ih ih =>
    rw [Cursor.run_append, before_ih ready inside, Option.bind_some, Cursor.run, next_key, Option.bind_some,
      Cursor.run, next_colon, Option.bind_some, ih (ready_value _) (congrArg (· + 1) inside), ← accept_member]
    rfl
  | nextMember h ih =>
    rw [Cursor.run_append, ih ready inside, Option.bind_some, Cursor.run_singleton,
      next_nextMember _ _ h.members_ne_nil]
  | object h ih =>
    rw [Cursor.run_append, ih ready inside, Option.bind_some, Cursor.run_singleton, next_object, inside]
    rfl
  | emptyObject =>
    rw [Cursor.run, ready.openObject, Option.bind_some, Cursor.run_singleton, next_emptyObject, inside]
    rfl

/-- What the reader has read when it takes a value into the open containers. -/
inductive Awaits (limit : Nat) : Cursor → List Token → Prop
  | start : Awaits limit .start []
  | item {c : Cursor} {ts us : List Token} {vs : List Json} (outer : Awaits limit c ts)
      (h : Spells limit c.frames.length us (.beforeItem vs)) :
      Awaits limit ((Phrase.beforeItem vs).cursor c.frames) (ts ++ us)
  | member {c : Cursor} {ts us : List Token} {ms : List (Option String × Json)} (outer : Awaits limit c ts)
      (h : Spells limit c.frames.length us (.beforeMember ms)) (k : Option String) :
      Awaits limit ⟨keyFrame ms k :: c.frames, .value, none⟩ (ts ++ (us ++ [.text k, .colon]))

inductive Reads (limit : Nat) : Cursor → List Token → Prop
  | awaits {c : Cursor} {ts : List Token} (h : Awaits limit c ts) : Reads limit c ts
  | done {ts : List Token} {v : Json} (h : Spells limit 0 ts (.value v)) :
      Reads limit (.accept [] v) ts
  | items {c : Cursor} {ts us : List Token} {vs : List Json} (outer : Awaits limit c ts)
      (h : Spells limit c.frames.length us (.items vs)) :
      Reads limit ((Phrase.items vs).cursor c.frames) (ts ++ us)
  | beforeMember {c : Cursor} {ts us : List Token} {ms : List (Option String × Json)}
      (outer : Awaits limit c ts) (h : Spells limit c.frames.length us (.beforeMember ms)) :
      Reads limit ((Phrase.beforeMember ms).cursor c.frames) (ts ++ us)
  | key {c : Cursor} {ts us : List Token} {ms : List (Option String × Json)} (outer : Awaits limit c ts)
      (h : Spells limit c.frames.length us (.beforeMember ms)) (k : Option String) :
      Reads limit ⟨keyFrame ms k :: c.frames, .colon, none⟩ (ts ++ (us ++ [.text k]))
  | members {c : Cursor} {ts us : List Token} {ms : List (Option String × Json)} (outer : Awaits limit c ts)
      (h : Spells limit c.frames.length us (.members ms)) :
      Reads limit ((Phrase.members ms).cursor c.frames) (ts ++ us)

theorem Awaits.ready (h : Awaits limit c ts) : Ready c := by
  cases h with
  | start => rfl
  | item => exact ready_beforeItem _ _
  | member => rfl

/-- A value goes into the innermost container, if there is one. -/
theorem Awaits.accept (h : Awaits limit c ts) (value : Spells limit c.frames.length us (.value v)) :
    Reads limit (.accept c.frames v) (ts ++ us) := by
  cases h with
  | start => exact .done value
  | @item c ts us' vs outer h =>
    rw [List.append_assoc]
    exact accept_item c.frames vs v ▸ .items outer (.item h value)
  | @member c ts us' ms outer h k =>
    have more := Reads.members outer (.member (k := k) h value)
    rw [← accept_member] at more
    simpa using more

/-- Where a value is taken, an array that is still empty may end instead. -/
theorem Awaits.next (h : Awaits limit c ts) (step : c.next limit t = some c') : Reads limit c' (ts ++ [t]) := by
  cases t with
  | word v =>
    rw [h.ready.word, Option.some.injEq] at step
    exact step ▸ h.accept (.word v)
  | text s =>
    rw [h.ready.text, Option.some.injEq] at step
    exact step ▸ h.accept (.text s)
  | openArray =>
    rw [h.ready.openArray, Option.some.injEq] at step
    exact step ▸ .awaits (.item h .openArray)
  | openObject =>
    rw [h.ready.openObject, Option.some.injEq] at step
    exact step ▸ .beforeMember h .openObject
  | closeArray =>
    cases h with
    | start => cases step
    | member => cases step
    | @item c ts us vs outer h =>
      cases h with
      | openArray =>
        rw [next_emptyArray, Option.some.injEq] at step
        rw [List.append_assoc]
        exact step ▸ outer.accept .emptyArray
      | @nextItem _ _ vs h =>
        cases vs with
        | nil => exact absurd rfl h.items_ne_nil
        | cons => cases step
  | closeObject | colon | comma =>
    cases h with
    | start => cases step
    | @item _ _ _ vs => cases vs <;> cases step
    | member => cases step

/-- Each token leaves what was read a beginning of the grammar. -/
theorem Reads.next (h : Reads limit c ts) (step : c.next limit t = some c') : Reads limit c' (ts ++ [t]) := by
  cases h with
  | awaits h => exact h.next step
  | done h => cases t <;> cases step
  | items outer h =>
    rw [List.append_assoc]
    cases t with
    | comma =>
      rw [next_nextItem _ _ h.items_ne_nil, Option.some.injEq] at step
      exact step ▸ .awaits (.item outer (.nextItem h))
    | closeArray =>
      rw [next_array, Option.some.injEq] at step
      exact step ▸ outer.accept (.array h)
    | _ => cases step
  | @beforeMember _ _ _ ms outer h =>
    rw [List.append_assoc]
    cases t with
    | text k =>
      rw [next_key, Option.some.injEq] at step
      exact step ▸ .key outer h k
    | closeObject =>
      cases h with
      | openObject =>
        rw [next_emptyObject, Option.some.injEq] at step
        exact step ▸ outer.accept .emptyObject
      | @nextMember _ _ ms h =>
        cases ms with
        | nil => exact absurd rfl h.members_ne_nil
        | cons => cases step
    | _ => cases ms <;> cases step
  | key outer h k =>
    rw [List.append_assoc, List.append_assoc]
    cases t with
    | colon =>
      rw [next_colon, Option.some.injEq] at step
      exact step ▸ .awaits (.member outer h k)
    | _ => cases step
  | members outer h =>
    rw [List.append_assoc]
    cases t with
    | comma =>
      rw [next_nextMember _ _ h.members_ne_nil, Option.some.injEq] at step
      exact step ▸ .beforeMember outer (.nextMember h)
    | closeObject =>
      rw [next_object, Option.some.injEq] at step
      exact step ▸ outer.accept (.object h)
    | _ => cases step

theorem Reads.run (h : Reads limit c ts) (run : c.run limit us = some c') : Reads limit c' (ts ++ us) := by
  induction us generalizing c ts with
  | nil =>
    cases run
    rwa [List.append_nil]
  | cons t us ih =>
    rw [Cursor.run, Option.bind_eq_some_iff] at run
    obtain ⟨next, step, run⟩ := run
    have more := ih (h.next step) run
    rwa [List.append_assoc] at more

/-- The reader finds in a text the value that the grammar has for it. -/
theorem read?_eq_some_iff (text : String) :
    read? text = some v ↔ ∃ ts, Cut text.toList ts ∧ Spells defaultDepth 0 ts (.value v) := by
  have found {ts : List Token} : tokens text = some ts ↔ Cut text.toList ts := tokens_eq_some_iff text
  simp only [read?, Option.bind_eq_bind, Option.bind_eq_some_iff, found]
  constructor
  · rintro ⟨ts, cut, c, run, result⟩
    refine ⟨ts, cut, ?_⟩
    cases Reads.run (.awaits .start) run with
    | awaits h => cases h.ready.pending.symm.trans result
    | done h => cases result; exact h
    | items => cases result
    | beforeMember => cases result
    | key => cases result
    | members => cases result
  · rintro ⟨ts, cut, spells⟩
    exact ⟨ts, cut, _, spells.run_eq rfl rfl, rfl⟩

end GatewaySync.Json
