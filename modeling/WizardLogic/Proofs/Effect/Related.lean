import Mathlib
import WizardLogic.Proofs.Run.Outcome

/-!
# Effects side by side

Many facts about the engine compare two evaluations: in two states, or before and after something
else has been noted in the log. This file has the one way of comparing that all of them use. Two
effects are *related* (`Effect.Related`) if, started in related exchanges, they end alike and leave
related exchanges: the results are related, or both fail in the same way (`EndAlike`).

Which exchanges count as related is left open. A sequence of related parts is related
(`Effect.Related.bind`). What an engine does to the outside is calling remote actions and noting
records, so all that is asked of the relation is that both lead to related exchanges again
(`Engine.Parallel`). That is so if the relation is kept when both sides do the same
(`Exchange.Parallel`): the replies that come next are the same, and after noting the same record or
sending the same request the exchanges are related again (`RemoteAction.related_run`).

With one exchange on both sides, a relation says what becomes of it: every effect only adds to the
log and to the requests, and takes one reply for each request (`Exchange.Extends`).
-/

namespace WizardLogic

variable {α β γ δ : Type}

/-! ### How two evaluations end -/

/-- Two evaluations end alike: with related results, or with the same failure. -/
inductive EndAlike (A : α → β → Prop) : Except Failure α → Except Failure β → Prop
  | ok {a : α} {b : β} : A a b → EndAlike A (.ok a) (.ok b)
  | error (f : Failure) : EndAlike A (.error f) (.error f)

namespace EndAlike

/-- Ending alike with equal results is ending in the same way. -/
theorem eq {r r' : Except Failure α} (h : EndAlike Eq r r') : r = r' := by
  cases h with
  | ok hab => rw [hab]
  | error f => rfl

theorem refl (r : Except Failure α) : EndAlike Eq r r := by
  cases r with
  | ok a => exact .ok rfl
  | error f => exact .error f

theorem map {A : α → β → Prop} {B : γ → δ → Prop} {r : Except Failure α} {r' : Except Failure β}
    {f : α → γ} {g : β → δ} (hr : EndAlike A r r') (h : ∀ a b, A a b → B (f a) (g b)) :
    EndAlike B (r.map f) (r'.map g) := by
  cases hr with
  | ok hab => exact .ok (h _ _ hab)
  | error e => exact .error e

/-- Of two evaluations that end alike and leave related things, either both have results or both
fail. -/
theorem cases_pair {σ τ : Type} {A : α → β → Prop} {S : σ → τ → Prop}
    {o : Except Failure α × σ} {o' : Except Failure β × τ} (hend : EndAlike A o.1 o'.1)
    (hleft : S o.2 o'.2) :
    (∃ a b x y, o = (.ok a, x) ∧ o' = (.ok b, y) ∧ A a b ∧ S x y) ∨
      ∃ f x y, o = (.error f, x) ∧ o' = (.error f, y) ∧ S x y := by
  obtain ⟨r, x⟩ := o
  obtain ⟨r', y⟩ := o'
  cases hend with
  | ok hab => exact .inl ⟨_, _, x, y, rfl, rfl, hab, hleft⟩
  | error f => exact .inr ⟨f, x, y, rfl, rfl, hleft⟩

end EndAlike

/-! ### Exchanges that go on in parallel -/

/-- A relation of exchanges is kept when both sides do the same. -/
structure Exchange.Parallel (R : Exchange → Exchange → Prop) : Prop where
  next_eq : ∀ {x y}, R x y → x.script.next = y.script.next
  noted : ∀ {x y}, R x y → ∀ r, R (x.noted r) (y.noted r)
  sent : ∀ {x y}, R x y → ∀ q, R (x.sent q) (y.sent q)

/-- A relation of exchanges is kept when both sides make the same call: the reply is the same, and
so the request and what calls note leave related exchanges. -/
structure Exchange.CallParallel (R : Exchange → Exchange → Prop) : Prop where
  next_eq : ∀ {x y}, R x y → x.script.next = y.script.next
  noted : ∀ {x y}, R x y → ∀ r, r.logger = .remote → R (x.noted r) (y.noted r)
  sent : ∀ {x y}, R x y → ∀ q, R (x.sent q) (y.sent q)

theorem Exchange.Parallel.calls {R : Exchange → Exchange → Prop} (hR : Exchange.Parallel R) :
    Exchange.CallParallel R where
  next_eq := hR.next_eq
  noted h r _ := hR.noted h r
  sent := hR.sent

namespace Effect

/-! ### Sequences of effects -/

theorem runFrom_bind (e : Effect α) (k : α → Effect β) (x : Exchange) :
    (e >>= k).runFrom x = match e.runFrom x with
      | (.ok a, x') => (k a).runFrom x'
      | (.error f, x') => (.error f, x') := by
  change (ExceptT.bindCont k (e.run.run x).1).run (e.run.run x).2 = _
  unfold runFrom
  rcases e.run.run x with ⟨_ | _, _⟩ <;> rfl

/-- **Related effects**: from related exchanges they end alike and leave related exchanges. -/
def Related (R : Exchange → Exchange → Prop) (A : α → β → Prop) (e : Effect α) (f : Effect β) :
    Prop :=
  ∀ x y, R x y →
    EndAlike A (e.runFrom x).1 (f.runFrom y).1 ∧ R (e.runFrom x).2 (f.runFrom y).2

namespace Related

variable {R : Exchange → Exchange → Prop} {A : α → β → Prop} {B : γ → δ → Prop}

theorem pure {a : α} {b : β} (h : A a b) :
    Related R A (Pure.pure a : Effect α) (Pure.pure b : Effect β) :=
  fun _ _ hxy => ⟨.ok h, hxy⟩

theorem throw (f : Failure) :
    Related R A (MonadExcept.throw f : Effect α) (MonadExcept.throw f : Effect β) :=
  fun _ _ hxy => ⟨.error f, hxy⟩

theorem fail (e : Error) : Related R A (Effect.fail e : Effect α) (Effect.fail e : Effect β) :=
  throw (Failure.error e)

theorem ofExcept {r : Except Failure α} {r' : Except Failure β} (h : EndAlike A r r') :
    Related R A (Effect.ofExcept r) (Effect.ofExcept r') :=
  fun _ _ hxy => ⟨h, hxy⟩

/-- An evaluation without effects is related to itself. -/
theorem ofExcept_self (r : Except Failure α) :
    Related R Eq (Effect.ofExcept r) (Effect.ofExcept r) :=
  ofExcept (.refl r)

theorem ofFault_self (r : Except Fault α) : Related R Eq (Effect.ofFault r) (Effect.ofFault r) :=
  ofExcept_self _

/-- **A sequence of related parts is related.** -/
theorem bind {e : Effect α} {f : Effect β} {k : α → Effect γ} {l : β → Effect δ}
    (he : Related R A e f) (hk : ∀ a b, A a b → Related R B (k a) (l b)) :
    Related R B (e >>= k) (f >>= l) := by
  intro x y hxy
  obtain ⟨hend, hleft⟩ := he x y hxy
  rcases hend.cases_pair hleft with ⟨a, b, x', y', ha, hb, hab, hxy'⟩ | ⟨g, x', y', hx, hy, hxy'⟩
  · rw [runFrom_bind, runFrom_bind, ha, hb]
    exact hk a b hab x' y' hxy'
  · rw [runFrom_bind, runFrom_bind, hx, hy]
    exact ⟨.error g, hxy'⟩

/-- A sequence is related if its first parts come to the same and all that follows is related. -/
theorem bind_eq {e f : Effect α} {k : α → Effect γ} {l : α → Effect δ}
    (he : Related R Eq e f) (hk : ∀ a, Related R B (k a) (l a)) :
    Related R B (e >>= k) (f >>= l) := by
  refine he.bind ?_
  rintro a _ rfl
  exact hk a

theorem map {e : Effect α} {f : Effect β} {g : α → γ} {g' : β → δ} (he : Related R A e f)
    (h : ∀ a b, A a b → B (g a) (g' b)) : Related R B (g <$> e) (g' <$> f) := by
  intro x y hxy
  obtain ⟨hend, hleft⟩ := he x y hxy
  rw [runFrom_map, runFrom_map]
  exact ⟨hend.map h, hleft⟩

/-- Going through a list is related if doing so for each of its members is. -/
theorem mapM {ε : Type} {f : ε → Effect α} {g : ε → Effect β} {items : List ε}
    (h : ∀ c ∈ items, Related R A (f c) (g c)) :
    Related R (List.Forall₂ A) (items.mapM f) (items.mapM g) := by
  induction items with
  | nil => exact .pure .nil
  | cons c rest ih =>
    obtain ⟨hc, hrest⟩ := List.forall_mem_cons.mp h
    rw [List.mapM_cons, List.mapM_cons]
    refine hc.bind fun a b hab => ?_
    exact (ih hrest).bind fun as bs habs => .pure (.cons hab habs)

theorem note {r : Log.Record} (h : ∀ {x y}, R x y → R (x.noted r) (y.noted r)) :
    Related R Eq (Effect.note r) (Effect.note r) :=
  fun _ _ hxy => ⟨.ok rfl, h hxy⟩

theorem send (hR : Exchange.CallParallel R) (q : Request) :
    Related R Eq (Effect.send q) (Effect.send q) :=
  fun _ _ hxy => ⟨.ok (hR.next_eq hxy), hR.sent hxy q⟩

end Related

end Effect

/-! ### Calls of remote actions -/

/-- The calls of an engine are related to themselves, whichever remote action they name. -/
def Engine.CallsAlike (en : Engine) (R : Exchange → Exchange → Prop) : Prop :=
  ∀ name contexts, Effect.Related R Eq (en.callRemote name contexts) (en.callRemote name contexts)

section Calls

variable {R : Exchange → Exchange → Prop} (hR : Exchange.CallParallel R)
include hR

theorem RemoteAction.related_outcome (a : RemoteAction) (contexts : Entries Value) (r : Response) :
    Effect.Related R Eq (a.outcome contexts r) (a.outcome contexts r) := by
  unfold outcome
  -- The warning is noted or not by the reply alone, which is the same on both sides.
  dsimp only
  split
  · exact .bind_eq (.note fun h => hR.noted h _ rfl) fun _ => .bind_eq (.ofExcept_self _) fun _ => .pure rfl
  · exact .bind_eq (.ofExcept_self _) fun _ => .pure rfl

/-- **A call is related to itself**: what it does depends on the replies only. -/
theorem RemoteAction.related_run (userAgent : String) (a : RemoteAction)
    (contexts : Entries Value) :
    Effect.Related R Eq (a.run userAgent contexts) (a.run userAgent contexts) := by
  unfold run
  refine .bind_eq (.ofExcept_self _) fun request => ?_
  refine .bind_eq (.note fun h => hR.noted h _ rfl) fun _ => ?_
  refine .bind_eq (.send hR request) fun reply => ?_
  cases reply with
  | lost reason => exact .fail _
  | response r => exact related_outcome hR a contexts r

theorem Engine.callsAlike (en : Engine) : en.CallsAlike R := by
  intro name contexts
  unfold callRemote
  cases en.wizard.remoteActionOf? name with
  | none => exact .fail _
  | some a => exact RemoteAction.related_run hR en.userAgent a contexts

end Calls

/-- **An engine goes on in parallel with itself** in related exchanges: they are related again after
a call and after noting a record. -/
structure Engine.Parallel (en : Engine) (R : Exchange → Exchange → Prop) : Prop where
  calls : en.CallsAlike R
  noted : ∀ {x y}, R x y → ∀ r, R (x.noted r) (y.noted r)

theorem Exchange.Parallel.engine {R : Exchange → Exchange → Prop} (hR : Exchange.Parallel R)
    (en : Engine) : en.Parallel R where
  calls := en.callsAlike hR.calls
  noted := hR.noted

/-! ### What an effect does to an exchange -/

/-- The replies that are going to come when some have come. -/
def Script.after : Nat → Script → Script
  | 0, s => s
  | n + 1, s => (s.after n).rest

/-- **An exchange goes on from another one**: there are more records and more requests, and one
reply has come for each of these requests. -/
inductive Exchange.Extends (x y : Exchange) : Prop
  | intro (records : List Log.Record) (requests : List Request) :
    y.log = x.log ++ records → y.requests = x.requests ++ requests →
      y.script = x.script.after requests.length → Extends x y

namespace Exchange.Extends

variable {x y : Exchange}

theorem refl (x : Exchange) : x.Extends x :=
  .intro [] [] (List.append_nil _).symm (List.append_nil _).symm rfl

theorem noted (h : x.Extends y) (r : Log.Record) : x.Extends (y.noted r) := by
  obtain ⟨records, requests, hlog, hrequests, hscript⟩ := h
  refine .intro (records ++ [r]) requests ?_ hrequests hscript
  rw [Exchange.noted, hlog, List.append_assoc]

theorem sent (h : x.Extends y) (q : Request) : x.Extends (y.sent q) := by
  obtain ⟨records, requests, hlog, hrequests, hscript⟩ := h
  refine .intro records (requests ++ [q]) hlog ?_ ?_
  · rw [Exchange.sent, hrequests, List.append_assoc]
  · rw [List.length_append]
    exact congrArg Script.rest hscript

end Exchange.Extends

end WizardLogic
