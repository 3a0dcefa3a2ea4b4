/-
How a request that got no valid response is classified.

The ping auction and the direct fullpost both report `timeout`, `rejected` or `error`
if no response is valid.  The auction keeps an answer of its own for a call that failed
and for one that was late; the fullpost drops calls that failed, and takes every answer
without success for a rejection.

* `ping_failure_class` — the auction reports the class of the outcomes (`failureClass`);
* `fullpost_failure_class_iff` — the fullpost does so exactly if no call failed while
  the answers were all timeouts, and answers without success are rejections;
* `failure_classes_agree_iff` — the two together, and that they agree on equal outcomes.
-/
import LeadsNebula.FullpostDirect
import LeadsNebula.WinnerTerms

namespace LeadsNebula

/-- What comes of calling a buyer: nothing in time, an error, or an answer. -/
abbrev BuyerOutcome := Option (Except String BuyerResponse)

namespace BuyerOutcome

/-- No answer in time, or one that says so. -/
def timedOut : BuyerOutcome → Bool
  | none => true
  | some (.ok b) => b.status = "timeout"
  | some (.error _) => false

def rejected : BuyerOutcome → Bool
  | some (.ok b) => b.status = "rejected"
  | _ => false

end BuyerOutcome

/-- The class of a request without a valid response. -/
def failureClass (outcomes : List BuyerOutcome) : LeadStatus :=
  if outcomes.all BuyerOutcome.timedOut then .timeout
  else if outcomes.any BuyerOutcome.rejected then .rejected
  else .error

/-- The outcomes are all timeouts if the answers are and no call failed. -/
theorem all_timedOut_iff (outcomes : List BuyerOutcome) :
    outcomes.all BuyerOutcome.timedOut = true ↔
      (∀ b, some (.ok b) ∈ outcomes → b.status = "timeout") ∧
        ∀ e, some (.error e) ∉ outcomes := by
  rw [List.all_eq_true]
  constructor
  · intro h
    refine ⟨fun b hb => of_decide_eq_true (h _ hb), fun e he => ?_⟩
    exact absurd (h _ he) Bool.false_ne_true
  · rintro ⟨hok, herror⟩ (_ | e | b) ho
    · rfl -- a call without an answer is a timeout
    · exact absurd ho (herror e)
    · exact decide_eq_true (hok b ho)

theorem any_rejected_iff (outcomes : List BuyerOutcome) :
    outcomes.any BuyerOutcome.rejected = true ↔
      ∃ b, some (.ok b) ∈ outcomes ∧ b.status = "rejected" := by
  rw [List.any_eq_true]
  constructor
  · rintro ⟨_ | e | b, ho, h⟩
    · cases h
    · cases h
    · exact ⟨b, ho, of_decide_eq_true h⟩
  · rintro ⟨b, hb, h⟩
    exact ⟨some (.ok b), hb, decide_eq_true h⟩

namespace PingTreeRouter

section Classes

variable [StdText] {r : PingTreeRouter} {env : RouteEnv} {priority : Uuid → Option ℤ}
  {campaigns : List Campaign}

omit [StdText] in
/-- The counts of the router, as statements about all responses. -/
theorem failureStatus_eq (responses : List Attributed) (rejected : BuyerResponse → Bool) :
    failureStatus responses rejected =
      if responses.all (fun x => x.1.status = "timeout") then .timeout
      else if responses.any (fun x => rejected x.1) then .rejected
      else .error := by
  have htimeout : (responses.filter fun x => x.1.status = "timeout").length = responses.length ↔
      (responses.all fun x => x.1.status = "timeout") = true := by
    rw [List.length_filter_eq_length_iff, List.all_eq_true]
  have hrejected : 0 < (responses.filter fun x => rejected x.1).length ↔
      (responses.any fun x => rejected x.1) = true := by
    rw [List.length_pos_iff, Ne, List.filter_eq_nil_iff, List.any_eq_true, not_forall]
    simp only [Classical.not_imp, not_not]
  rw [failureStatus]
  simp only [htimeout, hrejected]

/-! ### The auction -/

/-- The outcomes of the calls of an auction. -/
def pingOutcomes (r : PingTreeRouter) (env : RouteEnv) (campaigns : List Campaign) :
    List BuyerOutcome := campaigns.map (r.runPingTask env)

/-- The response kept for a call is a timeout or a rejection if its outcome is one. -/
theorem pingResponse_class (r : PingTreeRouter) (env : RouteEnv) (c : Campaign) :
    decide ((r.pingResponse env c).status = "timeout") =
        BuyerOutcome.timedOut (r.runPingTask env c) ∧
      decide ((r.pingResponse env c).status = "rejected") =
        BuyerOutcome.rejected (r.runPingTask env c) := by
  rw [pingResponse]
  rcases r.runPingTask env c with _ | e | b
  · exact ⟨rfl, rfl⟩
  · exact ⟨rfl, rfl⟩
  · exact ⟨rfl, rfl⟩

/-- No answer to a ping is valid. -/
def NoValidPing (r : PingTreeRouter) (env : RouteEnv) (campaigns : List Campaign) : Prop :=
  ∀ c ∈ campaigns, validPing (r.pingResponse env c) = false

/-- The auction reports the class of the outcomes. -/
theorem ping_failure_class (priority : Uuid → Option ℤ)
    (horder : env.order.Perm (List.range campaigns.length))
    (hnone : r.NoValidPing env campaigns) :
    ∃ res, (r.routePingAuction env priority campaigns).result = .ok res ∧
      res.status = (failureClass (r.pingOutcomes env campaigns)).asStr := by
  have hperm := Completion.inOrder_perm horder
  have hempty : ((r.pingResponses env priority campaigns).filter
      fun x => validPing x.1).isEmpty = true := by
    rw [List.isEmpty_iff, List.filter_eq_nil_iff]
    intro x hx
    obtain ⟨c, hc, rfl⟩ := List.mem_map.mp hx
    rw [hnone c (hperm.subset hc)]
    exact Bool.false_ne_true
  have hclass : failureStatus (r.pingResponses env priority campaigns)
      (fun x => x.status = "rejected") = failureClass (r.pingOutcomes env campaigns) := by
    rw [failureStatus_eq, failureClass, pingOutcomes, pingResponses, List.all_map, List.any_map,
      List.all_map, List.any_map, ← hperm.all_eq, ← hperm.any_eq]
    simp only [Function.comp_def, pingResponse_class]
  simp only [routePingAuction, hempty, if_true, hclass]
  exact ⟨_, rfl, rfl⟩

/-! ### The direct fullpost -/

/-- The outcomes of the calls of a direct fullpost. -/
def fullpostOutcomes (r : PingTreeRouter) (env : RouteEnv) (campaigns : List Campaign) :
    List BuyerOutcome := campaigns.map fun c => some (r.fullpostOutcome env c)

/-- No answer to a fullpost is valid. -/
def NoValidFullpost (r : PingTreeRouter) (env : RouteEnv) (campaigns : List Campaign) : Prop :=
  ∀ c ∈ campaigns, ∀ b, r.fullpostOutcome env c = .ok b → validFullpost b = false

/-- The answers tell the class: no call failed while the answers were all timeouts, and where they
were not, some answer came without success if and only if there was a rejection. -/
def ToldByAnswers (outcomes : List BuyerOutcome) : Prop :=
  ((∀ b, some (.ok b) ∈ outcomes → b.status = "timeout") → ∀ e, some (.error e) ∉ outcomes) ∧
    ((∃ b, some (.ok b) ∈ outcomes ∧ b.status ≠ "timeout") →
      ((∃ b, some (.ok b) ∈ outcomes ∧ b.success = false ∧ b.status ≠ "timeout") ↔
        ∃ b, some (.ok b) ∈ outcomes ∧ b.status = "rejected"))

/-- The fullpost sees the calls that were answered. -/
theorem mem_fullpostResponses (priority : Uuid → Option ℤ)
    (horder : env.order.Perm (List.range campaigns.length)) (b : BuyerResponse) :
    (∃ x ∈ r.fullpostResponses env priority campaigns, x.1 = b) ↔
      some (.ok b) ∈ r.fullpostOutcomes env campaigns := by
  have hperm := Completion.inOrder_perm horder
  have hanswers : (r.fullpostResponses env priority campaigns).map Prod.fst =
      (Completion.inOrder env.order campaigns).filterMap (r.fullpostAnswer env) := by
    rw [fullpostResponses_eq, List.map_map]
    exact Completion.map_fst_zipCollect _ _ hperm.length_eq.symm
  rw [← List.mem_map, hanswers, List.mem_filterMap, fullpostOutcomes, List.mem_map]
  refine exists_congr fun c => and_congr hperm.mem_iff ?_
  rw [Option.some_inj, fullpostAnswer]
  cases r.fullpostOutcome env c with
  | error e => exact iff_of_false nofun nofun
  | ok b' =>
    show some b' = some b ↔ Except.ok b' = .ok b
    rw [Option.some_inj, Except.ok.injEq]

/-- What a fullpost without a valid answer reports. -/
theorem fullpost_failure_status (priority : Uuid → Option ℤ)
    (horder : env.order.Perm (List.range campaigns.length))
    (hnone : r.NoValidFullpost env campaigns) :
    ∃ res, (r.routeFullpostDirect env priority campaigns).result = .ok res ∧
      res.status = (failureStatus (r.fullpostResponses env priority campaigns)
        fun b => !b.success && b.status != "timeout").asStr := by
  have hempty : (r.fullpostResponses env priority campaigns).filter
      (fun x => validFullpost x.1) = [] := by
    rw [List.filter_eq_nil_iff]
    intro x hx
    obtain ⟨c, hc, hb⟩ := List.mem_map.mp ((mem_fullpostResponses priority horder x.1).mp
      ⟨x, hx, rfl⟩)
    rw [hnone c hc x.1 (Option.some_inj.mp hb)]
    exact Bool.false_ne_true
  have hsort : sortOffers BuyerResponse.price [] = [] := List.mergeSort_nil ..
  simp only [routeFullpostDirect, hempty, hsort]
  exact ⟨_, rfl, rfl⟩

omit [StdText] in
theorem asStr_failureStatus_inj {s s' : LeadStatus} (hs : s ∈ [.timeout, .rejected, .error])
    (hs' : s' ∈ [.timeout, .rejected, .error]) (h : s.asStr = s'.asStr) : s = s' := by
  revert hs hs' h
  cases s <;> cases s' <;> decide

omit [StdText] in
theorem failureClass_mem (outcomes : List BuyerOutcome) :
    failureClass outcomes ∈ [.timeout, .rejected, .error] := by
  rw [failureClass]
  split
  · decide
  · split <;> decide

/-- The first count of the fullpost reads the answers only. -/
theorem fullpost_all_timeout (priority : Uuid → Option ℤ)
    (horder : env.order.Perm (List.range campaigns.length)) :
    ((r.fullpostResponses env priority campaigns).all fun x => x.1.status = "timeout") = true ↔
      ∀ b, some (.ok b) ∈ r.fullpostOutcomes env campaigns → b.status = "timeout" := by
  simp only [← mem_fullpostResponses (r := r) priority horder, List.all_eq_true,
    decide_eq_true_iff]
  exact ⟨fun h b ⟨x, hx, hb⟩ => hb ▸ h x hx, fun h x hx => h x.1 ⟨x, hx, rfl⟩⟩

/-- The second count takes every answer without success for a rejection, but for timeouts. -/
theorem fullpost_any_unsuccessful (priority : Uuid → Option ℤ)
    (horder : env.order.Perm (List.range campaigns.length)) :
    ((r.fullpostResponses env priority campaigns).any
        fun x => !x.1.success && x.1.status != "timeout") = true ↔
      ∃ b, some (.ok b) ∈ r.fullpostOutcomes env campaigns ∧ b.success = false ∧
        b.status ≠ "timeout" := by
  simp only [← mem_fullpostResponses (r := r) priority horder, List.any_eq_true, Bool.and_eq_true,
    Bool.not_eq_true', bne_iff_ne]
  exact ⟨fun ⟨x, hx, h⟩ => ⟨x.1, ⟨x, hx, rfl⟩, h⟩, fun ⟨b, ⟨x, hx, hb⟩, h⟩ => ⟨x, hx, hb ▸ h⟩⟩

/-- Without a valid answer the fullpost reports the class of the outcomes exactly if the answers
tell it. -/
theorem fullpost_failure_class_iff (priority : Uuid → Option ℤ)
    (horder : env.order.Perm (List.range campaigns.length)) :
    failureStatus (r.fullpostResponses env priority campaigns)
        (fun b => !b.success && b.status != "timeout") =
      failureClass (r.fullpostOutcomes env campaigns) ↔
    ToldByAnswers (r.fullpostOutcomes env campaigns) := by
  have htimeout := fullpost_all_timeout (r := r) priority horder
  have hrejected := fullpost_any_unsuccessful (r := r) priority horder
  have hall := all_timedOut_iff (r.fullpostOutcomes env campaigns)
  have hany := any_rejected_iff (r.fullpostOutcomes env campaigns)
  rw [failureStatus_eq, failureClass, ToldByAnswers]
  by_cases htimeouts : ∀ b, some (.ok b) ∈ r.fullpostOutcomes env campaigns → b.status = "timeout"
  · -- the fullpost reports a timeout, which is right unless a call failed
    have hno : ¬ ∃ b, some (.ok b) ∈ r.fullpostOutcomes env campaigns ∧ b.status ≠ "timeout" :=
      fun ⟨b, hb, hne⟩ => hne (htimeouts b hb)
    rw [if_pos (htimeout.mpr htimeouts)]
    by_cases herror : ∀ e, some (.error e) ∉ r.fullpostOutcomes env campaigns
    · rw [if_pos (hall.mpr ⟨htimeouts, herror⟩)]
      exact iff_of_true rfl ⟨fun _ => herror, fun h => absurd h hno⟩
    · -- the failed call makes the class a rejection or an error
      rw [if_neg fun h => herror (hall.mp h).2]
      refine iff_of_false ?_ fun h => herror (h.1 htimeouts)
      split <;> exact nofun
  · -- neither side is a timeout: what is left to compare are the two tests for a rejection
    have hsome : ∃ b, some (.ok b) ∈ r.fullpostOutcomes env campaigns ∧ b.status ≠ "timeout" := by
      simpa only [not_forall, exists_prop] using htimeouts
    rw [if_neg fun h => htimeouts (htimeout.mp h), if_neg fun h => htimeouts (hall.mp h).1,
      ← hrejected, ← hany]
    generalize ((r.fullpostResponses env priority campaigns).any
      fun x => !x.1.success && x.1.status != "timeout") = unsuccessful
    generalize (r.fullpostOutcomes env campaigns).any BuyerOutcome.rejected = rejection
    have hsame : ((if unsuccessful = true then LeadStatus.rejected else .error) =
        if rejection = true then .rejected else .error) ↔
        (unsuccessful = true ↔ rejection = true) := by
      cases unsuccessful <;> cases rejection <;> decide
    rw [hsame]
    exact ⟨fun h => ⟨fun ht => absurd ht htimeouts, fun _ => h⟩, fun h => h.2 hsome⟩

/-! ### Both -/

omit [StdText] in
theorem failureClass_perm {outcomes outcomes' : List BuyerOutcome}
    (h : outcomes.Perm outcomes') : failureClass outcomes = failureClass outcomes' := by
  rw [failureClass, failureClass, h.all_eq, h.any_eq]

/-- Both routes report the class of the outcomes, and so agree on equal outcomes, exactly if the
answers to the fullpost tell it. -/
theorem failure_classes_agree_iff (priority : Uuid → Option ℤ)
    (horder : env.order.Perm (List.range campaigns.length)) :
    ((r.NoValidPing env campaigns →
        ∃ res, (r.routePingAuction env priority campaigns).result = .ok res ∧
          res.status = (failureClass (r.pingOutcomes env campaigns)).asStr) ∧
      (r.NoValidFullpost env campaigns →
        ∃ res, (r.routeFullpostDirect env priority campaigns).result = .ok res ∧
          res.status = (failureClass (r.fullpostOutcomes env campaigns)).asStr ∧
          ∀ (r' : PingTreeRouter) (env' : RouteEnv) (campaigns' : List Campaign),
            env'.order.Perm (List.range campaigns'.length) → r'.NoValidPing env' campaigns' →
            (r'.pingOutcomes env' campaigns').Perm (r.fullpostOutcomes env campaigns) →
            ∃ res', (r'.routePingAuction env' priority campaigns').result = .ok res' ∧
              res'.status = res.status)) ↔
    (r.NoValidFullpost env campaigns → ToldByAnswers (r.fullpostOutcomes env campaigns)) := by
  constructor
  · rintro ⟨-, hfullpost⟩ hnone
    obtain ⟨res, hres, hclass, -⟩ := hfullpost hnone
    obtain ⟨res', hres', hstatus⟩ := fullpost_failure_status priority horder hnone
    obtain rfl : res = res' := Except.ok.inj (hres.symm.trans hres')
    exact (fullpost_failure_class_iff priority horder).mp
      (asStr_failureStatus_inj (failureStatus_mem _ _) (failureClass_mem _)
        (hstatus.symm.trans hclass))
  · intro htold
    refine ⟨ping_failure_class priority horder, fun hnone => ?_⟩
    obtain ⟨res, hres, hstatus⟩ := fullpost_failure_status priority horder hnone
    rw [(fullpost_failure_class_iff priority horder).mpr (htold hnone)] at hstatus
    refine ⟨res, hres, hstatus, fun r' env' campaigns' horder' hnone' hperm => ?_⟩
    obtain ⟨res', hres', hstatus'⟩ := ping_failure_class priority horder' hnone'
    exact ⟨res', hres', by rw [hstatus', hstatus, failureClass_perm hperm]⟩

end Classes

/-! ### One buyer that cannot be reached -/

open Sample

/-- The buyer of the campaign cannot be reached. -/
def unreachableEnv : RouteEnv :=
  { rejectedPostEnv with postCall := fun _ => ⟨.sendFailed "connection refused", draw, "2"⟩ }

/-- The only call fails with a transport error, and the fullpost reports a timeout. -/
theorem failed_call_reported_as_timeout :
    ((fullpost false).router new 0).NoValidFullpost unreachableEnv [campaign] ∧
      failureClass (((fullpost false).router new 0).fullpostOutcomes unreachableEnv [campaign]) =
        .error ∧
      ∃ res, (((fullpost false).router new 0).routeFullpostDirect unreachableEnv (fun _ => some 1)
        [campaign]).result = .ok res ∧ res.status = "timeout" := by
  have hnone : ((fullpost false).router new 0).NoValidFullpost unreachableEnv [campaign] := by
    intro c hc b hb
    rw [List.mem_singleton.mp hc] at hb
    cases hb
  refine ⟨hnone, by decide, ?_⟩
  obtain ⟨res, hres, hstatus⟩ := fullpost_failure_status (fun _ => some 1) (by decide) hnone
  refine ⟨res, hres, hstatus.trans ?_⟩
  decide

/-- The buyer rejects the fullpost. -/
theorem failure_classes_agree_rejected :
    ((fullpost false).router new 0).NoValidFullpost rejectedPostEnv [campaign] ∧
      ∃ res, (((fullpost false).router new 0).routeFullpostDirect rejectedPostEnv (fun _ => some 1)
        [campaign]).result = .ok res ∧ res.status = "rejected" := by
  -- the one buyer has answered, and said no
  have houtcomes : ((fullpost false).router new 0).fullpostOutcomes rejectedPostEnv [campaign] =
      [some (.ok ⟨false, "rejected", none, none, none, none, none, none, none⟩)] := rfl
  have hnone : ((fullpost false).router new 0).NoValidFullpost rejectedPostEnv [campaign] := by
    intro c hc b hb
    have hmem : some (.ok b) ∈
        ((fullpost false).router new 0).fullpostOutcomes rejectedPostEnv [campaign] :=
      List.mem_map.mpr ⟨c, hc, congrArg some hb⟩
    rw [houtcomes, List.mem_singleton, Option.some_inj, Except.ok.injEq] at hmem
    rw [hmem]
    rfl
  have htold : ToldByAnswers
      (((fullpost false).router new 0).fullpostOutcomes rejectedPostEnv [campaign]) := by
    rw [houtcomes]
    refine ⟨fun h => absurd (h _ List.mem_cons_self) (by decide), fun _ => iff_of_true ?_ ?_⟩
    · exact ⟨_, List.mem_cons_self, rfl, by decide⟩
    · exact ⟨_, List.mem_cons_self, rfl⟩
  obtain ⟨res, hres, hstatus, -⟩ := ((failure_classes_agree_iff (fun _ => some 1)
    (by decide)).mpr fun _ => htold).2 hnone
  refine ⟨hnone, res, hres, hstatus.trans ?_⟩
  rw [houtcomes]
  decide

end PingTreeRouter

end LeadsNebula
