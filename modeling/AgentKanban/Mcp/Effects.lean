import AgentKanban.Mcp.Server

/-!
# What a request program may do

Three properties of a program over VK API requests, each defined by recursion over the program
and so holding for every sequence of outcomes at once:

* `ReadOnly`: every request it may send is a read;
* `Sends P`: every request it may send satisfies `P` (`Sends.run`);
* `Always P`: every run ends in a result satisfying `P`;
* `CommitsLast exempt`: once a mutating request outside `exempt` is answered successfully, the
  run ends in `.ok`;
* `SendsAfter P h` and `AlwaysAfter Q h`: `Sends` and `Always` where the property may read the
  exchanges made before (`SendsAfter.run`), so that a request can be tied to the answers it was
  built from.

`CommitsLast.no_commit_of_error` is the soundness of the last: in every run that ends in an
error, every mutating request answered successfully is exempt. The bind lemmas over `VkM` and
`ToolM` let each tool's property be assembled from its steps.
-/

namespace AgentKanban.Mcp

namespace VkM

variable {α β ε : Type}

/-! ## Running -/

instance : LawfulMonad VkM := LawfulMonad.mk' VkM
  (fun x => by
    induction x with
    | pure a => rfl
    | call c k ih => exact congrArg (VkM.call c) (funext ih))
  (fun _ _ => rfl)
  (fun x f g => bind_assoc x f g)

theorem run_bind_pure (x : VkM α) (g : α → β) (o : Oracle) (n : Nat) :
    (x.bind fun a => .pure (g a)).run o n = (g (x.run o n).1, (x.run o n).2) := by
  induction x generalizing n with
  | pure a => rfl
  | call c k ih => simp only [call_bind, run, ih]

/-! ## The three properties -/

/-- Every request the program may send is a read. -/
def ReadOnly : VkM α → Prop
  | .pure _ => True
  | .call c k => c.mutating = false ∧ ∀ o, (k o).ReadOnly

/-- Every request the program may send satisfies `P`. -/
def Sends (P : ApiCall → Prop) : VkM α → Prop
  | .pure _ => True
  | .call c k => P c ∧ ∀ o, (k o).Sends P

/-- Every run ends in a result satisfying `P`. -/
def Always (P : α → Prop) : VkM α → Prop
  | .pure a => P a
  | .call _ k => ∀ o, (k o).Always P

/-- Once a mutating request outside `exempt` is answered successfully, the run ends in `.ok`. -/
def CommitsLast (exempt : ApiCall → Bool) : VkM (Except ε β) → Prop
  | .pure _ => True
  | .call c k => ∀ o,
      (Exchange.commits ⟨c, o⟩ = true → exempt c = false → (k o).Always (·.isOk)) ∧
        (k o).CommitsLast exempt

theorem Always.run {P : α → Prop} {p : VkM α} (h : p.Always P) (o : Oracle) (n : Nat) :
    P (p.run o n).1 := by
  induction p generalizing n with
  | pure a => exact h
  | call c k ih => exact ih _ (h _) _

/-- Every request of every run satisfies `P`. -/
theorem Sends.run {P : ApiCall → Prop} {p : VkM α} (h : p.Sends P) (o : Oracle) (n : Nat) :
    ∀ x ∈ (p.run o n).2, P x.call := by
  induction p generalizing n with
  | pure a => simp [VkM.run]
  | call c k ih =>
    simp only [VkM.run, List.mem_cons]
    rintro x (rfl | hx)
    · exact h.1
    · exact ih _ (h.2 _) _ x hx

/-- **Soundness.** A run that ends in an error answered no mutating request successfully, apart
from exempt ones. -/
theorem CommitsLast.no_commit_of_error {exempt : ApiCall → Bool} {p : VkM (Except ε β)}
    (h : p.CommitsLast exempt) (o : Oracle) (n : Nat) (herr : (p.run o n).1.isOk = false) :
    ∀ x ∈ (p.run o n).2, x.commits = true → exempt x.call = true := by
  induction p generalizing n with
  | pure a => simp [run]
  | call c k ih =>
    intro x hx hcommit
    simp only [run, List.mem_cons] at herr hx
    obtain ⟨hlast, hrest⟩ := h (o n c)
    rcases hx with rfl | hx
    · by_contra hex
      have := (hlast hcommit (by simpa using hex)).run o (n + 1)
      simp_all
    · exact ih _ hrest _ herr x hx hcommit

/-! ## Bind lemmas -/

theorem always_true (p : VkM α) : p.Always fun _ => True := by
  induction p with
  | pure a => trivial
  | call c k ih => exact ih

@[simp] theorem always_pure {P : α → Prop} (a : α) : (VkM.pure a).Always P ↔ P a := Iff.rfl

theorem Always.imp {P Q : α → Prop} {p : VkM α} (h : p.Always P) (hPQ : ∀ a, P a → Q a) :
    p.Always Q := by
  induction p with
  | pure a => exact hPQ a h
  | call c k ih => exact fun o => ih o (h o)

theorem Always.bind {P : α → Prop} {Q : β → Prop} {x : VkM α} {f : α → VkM β}
    (hx : x.Always P) (hf : ∀ a, P a → (f a).Always Q) : (x.bind f).Always Q := by
  induction x with
  | pure a => exact hf a hx
  | call c k ih => exact fun o => ih o (hx o)

/-- Sequencing, knowing that the first program's result satisfies `Q`. -/
theorem Sends.bind {P : ApiCall → Prop} {Q : α → Prop} {x : VkM α} {f : α → VkM β}
    (hx : x.Sends P) (hq : x.Always Q) (hf : ∀ a, Q a → (f a).Sends P) : (x.bind f).Sends P := by
  induction x with
  | pure a => exact hf a hq
  | call c k ih => exact ⟨hx.1, fun o => ih o (hx.2 o) (hq o)⟩

theorem ReadOnly.bind {x : VkM α} {f : α → VkM β} (hx : x.ReadOnly)
    (hf : ∀ a, (f a).ReadOnly) : (x.bind f).ReadOnly := by
  induction x with
  | pure a => exact hf a
  | call c k ih => exact ⟨hx.1, fun o => ih o (hx.2 o)⟩

theorem ReadOnly.map {x : VkM α} {f : α → β} (hx : x.ReadOnly) : (f <$> x).ReadOnly :=
  hx.bind fun _ => trivial

theorem ReadOnly.commitsLast {exempt : ApiCall → Bool} {p : VkM (Except ε β)}
    (h : p.ReadOnly) : p.CommitsLast exempt := by
  induction p with
  | pure a => trivial
  | call c k ih =>
    refine fun o => ⟨fun hc => ?_, ih o (h.2 o)⟩
    simp [Exchange.commits, h.1] at hc

theorem Always.commitsLast {exempt : ApiCall → Bool} {p : VkM (Except ε β)}
    (h : p.Always (·.isOk)) : p.CommitsLast exempt := by
  induction p with
  | pure a => trivial
  | call c k ih => exact fun o => ⟨fun _ _ => h o, ih o (h o)⟩

theorem CommitsLast.bind {exempt : ApiCall → Bool} {x : VkM α} {f : α → VkM (Except ε β)}
    (hx : x.ReadOnly) (hf : ∀ a, (f a).CommitsLast exempt) : (x.bind f).CommitsLast exempt := by
  induction x with
  | pure a => exact hf a
  | call c k ih =>
    refine fun o => ⟨fun hc => ?_, ih o (hx.2 o)⟩
    simp [Exchange.commits, hx.1] at hc

/-! ## Knowing the exchanges before -/

/-- Every request the program may send satisfies `P` given the exchanges made before it, `h`
being those made before the program starts. -/
def SendsAfter (P : List Exchange → ApiCall → Prop) : VkM α → List Exchange → Prop
  | .pure _, _ => True
  | .call c k, h => P h c ∧ ∀ o, (k o).SendsAfter P (h ++ [⟨c, o⟩])

/-- Every run ends in a result satisfying `Q` given the exchanges made up to its end. -/
def AlwaysAfter (Q : List Exchange → α → Prop) : VkM α → List Exchange → Prop
  | .pure a, h => Q h a
  | .call c k, h => ∀ o, (k o).AlwaysAfter Q (h ++ [⟨c, o⟩])

/-- Every request of every run satisfies `P` given the exchanges before it in the run. -/
theorem SendsAfter.run {P : List Exchange → ApiCall → Prop} {p : VkM α} {h : List Exchange}
    (hp : p.SendsAfter P h) (o : Oracle) (n : Nat) :
    ∀ pre x post, (p.run o n).2 = pre ++ x :: post → P (h ++ pre) x.call := by
  induction p generalizing h n with
  | pure a => intro pre x post hrun; simp [VkM.run] at hrun
  | call c k ih =>
    rintro (_ | ⟨y, pre⟩) x post hrun <;>
      simp only [VkM.run, List.nil_append, List.cons_append, List.cons.injEq] at hrun
    · obtain ⟨rfl, -⟩ := hrun
      simpa using hp.1
    · obtain ⟨rfl, hrest⟩ := hrun
      simpa using ih _ (hp.2 _) _ pre x post hrest

theorem SendsAfter.bind {P : List Exchange → ApiCall → Prop} {x : VkM α} {f : α → VkM β}
    {h : List Exchange} (hx : x.SendsAfter P h)
    (hf : x.AlwaysAfter (fun h' a => (f a).SendsAfter P h') h) : (x.bind f).SendsAfter P h := by
  induction x generalizing h with
  | pure a => exact hf
  | call c k ih => exact ⟨hx.1, fun o => ih o (hx.2 o) (hf o)⟩

theorem AlwaysAfter.bind {Q : List Exchange → β → Prop} {x : VkM α} {f : α → VkM β}
    {h : List Exchange} (hf : x.AlwaysAfter (fun h' a => (f a).AlwaysAfter Q h') h) :
    (x.bind f).AlwaysAfter Q h := by
  induction x generalizing h with
  | pure a => exact hf
  | call c k ih => exact fun o => ih o (hf o)

theorem AlwaysAfter.imp {Q R : List Exchange → α → Prop} {x : VkM α} {h : List Exchange}
    (hx : x.AlwaysAfter Q h) (hQR : ∀ h' a, Q h' a → R h' a) : x.AlwaysAfter R h := by
  induction x generalizing h with
  | pure a => exact hQR _ _ hx
  | call c k ih => exact fun o => ih o (hx o)

end VkM

/-! ## Tool bodies -/

namespace ToolM

open VkM

variable {α β : Type} {exempt : ApiCall → Bool}

theorem run_bind (x : ToolM α) (f : α → ToolM β) :
    (x >>= f).run = x.run.bind (ExceptT.bindCont f) := rfl

theorem readOnly_bind {x : ToolM α} {f : α → ToolM β} (hx : x.run.ReadOnly)
    (hf : ∀ a, (f a).run.ReadOnly) : (x >>= f).run.ReadOnly :=
  ReadOnly.bind hx fun | .ok a => hf a | .error _ => trivial

theorem commitsLast_bind {x : ToolM α} {f : α → ToolM β} (hx : x.run.ReadOnly)
    (hf : ∀ a, (f a).run.CommitsLast exempt) : (x >>= f).run.CommitsLast exempt :=
  CommitsLast.bind hx fun | .ok a => hf a | .error _ => trivial

theorem always_bind {x : ToolM α} {f : α → ToolM β} (hx : x.run.Always (·.isOk))
    (hf : ∀ a, (f a).run.Always (·.isOk)) : (x >>= f).run.Always (·.isOk) :=
  Always.bind hx fun | .ok a, _ => hf a | .error _, h => absurd h Bool.false_ne_true

theorem sends_bind {P : ApiCall → Prop} {Q : α → Prop} {x : ToolM α} {f : α → ToolM β}
    (hx : x.run.Sends P) (hq : x.run.Always fun r => ∀ v, r = .ok v → Q v)
    (hf : ∀ v, Q v → (f v).run.Sends P) : (x >>= f).run.Sends P :=
  Sends.bind hx hq fun | .ok v, h => hf v (h v rfl) | .error _, _ => trivial

theorem sends_seq {P : ApiCall → Prop} {x : ToolM α} {f : α → ToolM β} (hx : x.run.Sends P)
    (hf : ∀ v, (f v).run.Sends P) : (x >>= f).run.Sends P :=
  sends_bind (Q := fun _ => True) hx ((always_true _).imp fun _ _ _ _ => trivial) fun v _ => hf v

theorem sends_map {P : ApiCall → Prop} {x : ToolM α} {f : α → β} (h : x.run.Sends P) :
    (f <$> x).run.Sends P :=
  Sends.bind h (always_true _) fun r _ => by cases r <;> trivial

theorem always_lift_of {Q : α → Prop} {x : VkM α} (h : x.Always Q) :
    (ExceptT.lift x : ToolM α).run.Always fun r => ∀ v, r = .ok v → Q v :=
  Always.bind h fun _ ha _ hv => by cases hv; exact ha

theorem always_throw {Q : α → Prop} (e : ErrorValue) :
    (throw e : ToolM α).run.Always fun r => ∀ v, r = .ok v → Q v :=
  fun _ hv => by cases hv

theorem readOnly_map {x : ToolM α} {f : α → β} (hx : x.run.ReadOnly) : (f <$> x).run.ReadOnly :=
  ReadOnly.bind hx fun | .ok _ => trivial | .error _ => trivial

theorem readOnly_lift {x : VkM α} (h : x.ReadOnly) : (ExceptT.lift x : ToolM α).run.ReadOnly :=
  ReadOnly.bind h fun _ => trivial

theorem sends_lift {P : ApiCall → Prop} {x : VkM α} (h : x.Sends P) :
    (ExceptT.lift x : ToolM α).run.Sends P :=
  Sends.bind h (always_true _) fun _ _ => trivial

theorem always_lift (x : VkM α) : (ExceptT.lift x : ToolM α).run.Always (·.isOk) :=
  Always.bind (always_true x) fun _ _ => rfl

theorem readOnly_sendJson {c : ApiCall} (h : c.mutating = false) : (sendJson c).run.ReadOnly :=
  ⟨h, fun _ => trivial⟩

theorem readOnly_sendEmptyJson {c : ApiCall} (h : c.mutating = false) :
    (sendEmptyJson c).run.ReadOnly :=
  ⟨h, fun _ => trivial⟩

/-- **The committing step**: a request sent with `send_json`, after which nothing can fail. -/
theorem commitsLast_sendJson_bind {c : ApiCall} (hc : c.expectsData = true) {f : c.Data → ToolM β}
    (hf : ∀ a, (f a).run.Always (·.isOk)) : (sendJson c >>= f).run.CommitsLast exempt := by
  intro o
  refine ⟨fun hcommit _ => ?_, ?_⟩
  · obtain ⟨d, hd⟩ := (decodeJson_ok_iff hc o).2 (Bool.and_eq_true _ _ ▸ hcommit).2
    show (ExceptT.bindCont f (decodeJson o)).Always _
    rw [hd]
    exact hf d
  · show (ExceptT.bindCont f (decodeJson o)).CommitsLast exempt
    cases decodeJson o with
    | ok d => exact (hf d).commitsLast
    | error e => trivial

/-- The committing step with `send_empty_json`. -/
theorem commitsLast_sendEmptyJson_bind {c : ApiCall} (hc : c.expectsData = false)
    {f : Unit → ToolM β} (hf : ∀ a, (f a).run.Always (·.isOk)) :
    (sendEmptyJson c >>= f).run.CommitsLast exempt := by
  intro o
  refine ⟨fun hcommit _ => ?_, ?_⟩
  · have hd := (decodeEmpty_ok_iff hc o).2 (Bool.and_eq_true _ _ ▸ hcommit).2
    show (ExceptT.bindCont f (decodeEmpty o)).Always _
    rw [hd]
    exact hf ()
  · show (ExceptT.bindCont f (decodeEmpty o)).CommitsLast exempt
    cases decodeEmpty o with
    | ok d => exact (hf d).commitsLast
    | error e => trivial

/-- An exempt mutating request may be followed by anything that commits last. -/
theorem commitsLast_sendJson_exempt {c : ApiCall} (hc : exempt c = true) {f : c.Data → ToolM β}
    (hf : ∀ a, (f a).run.CommitsLast exempt) : (sendJson c >>= f).run.CommitsLast exempt := by
  intro o
  refine ⟨fun _ hne => absurd hc (by simp [hne]), ?_⟩
  show (ExceptT.bindCont f (decodeJson o)).CommitsLast exempt
  cases decodeJson o with
  | ok d => exact hf d
  | error e => trivial

end ToolM

end AgentKanban.Mcp
