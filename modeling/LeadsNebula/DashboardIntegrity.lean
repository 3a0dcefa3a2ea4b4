/-
The rows that the router reads fit together, whatever the dashboard is asked to do.

`Intact`: the keys of publishers and the tokens of campaigns are unique; the campaigns
and publishers of a ping tree exist, each is in it once, and an assignment has the
vertical of its ping tree, of which a publisher has one.

* `intact_of_edit` — every edit keeps this;
* `intact_from_empty` — so it holds after every sequence of requests of any users;
* `Stranded.of_edit` — an assignment to a deleted ping tree stays for ever: the handler
  that removes one asks for a ping tree that is not deleted.
-/
import LeadsNebula.DashboardEdits

namespace LeadsNebula

namespace Dashboard

open Prog Database

/-! ### The columns that must fit together -/

@[reducible] def Cols : Relation → Type
  | .publishers | .campaigns | .pingTrees => Uuid × String
  | .pingTreeCampaigns => Uuid × Uuid
  | .pingTreePublishers => Uuid × Uuid × String
  | _ => Unit

def cols : ∀ t, Row t → Cols t
  | .publishers, r => (r.id, r.apiKeyHash)
  | .campaigns, r => (r.id, r.campaignToken)
  | .pingTrees, r => (r.id, r.vertical)
  | .pingTreeCampaigns, r => (r.pingTreeId, r.campaignId)
  | .pingTreePublishers, r => (r.pingTreeId, r.publisherId, r.vertical)
  | .instances, _ | .instanceUsers, _ | .verticals, _ | .buyerIntegrations, _
  | .publisherVerticals, _ | .buyers, _ | .buyerQualificationConfigs, _ | .buyerZipLists, _
  | .buyerZipCodes, _ | .auditLogs, _ => ()

abbrev View := ∀ t, List (Cols t)

/-- The constraints between the tables that the router reads. -/
structure Integral (v : View) : Prop where
  apiKeys : ((v .publishers).map Prod.snd).Nodup
  tokens : ((v .campaigns).map Prod.snd).Nodup
  linkTree : ∀ l ∈ v .pingTreeCampaigns, l.1 ∈ (v .pingTrees).map Prod.fst
  linkCampaign : ∀ l ∈ v .pingTreeCampaigns, l.2 ∈ (v .campaigns).map Prod.fst
  linkOnce : (v .pingTreeCampaigns).Nodup
  /-- An assignment has the vertical of its ping tree. -/
  assignmentTree : ∀ a ∈ v .pingTreePublishers, (a.1, a.2.2) ∈ v .pingTrees
  assignmentPublisher : ∀ a ∈ v .pingTreePublishers, a.2.1 ∈ (v .publishers).map Prod.fst
  /-- A publisher has one ping tree of a vertical. -/
  assignmentOnce : ((v .pingTreePublishers).map Prod.snd).Nodup

def Intact (s : Db) : Prop := Integral (s.view cols)

namespace Integral

variable {v : View}

theorem congr (h : Integral v) {v' : View} (heq : ∀ t, routed t = true → v' t = v t) :
    Integral v' := by
  have hp := heq .publishers rfl
  have hc := heq .campaigns rfl
  have ht := heq .pingTrees rfl
  have hl := heq .pingTreeCampaigns rfl
  have ha := heq .pingTreePublishers rfl
  refine ⟨?_, ?_, ?_, ?_, ?_, ?_, ?_, ?_⟩
  · rw [hp]
    exact h.apiKeys
  · rw [hc]
    exact h.tokens
  · rw [hl, ht]
    exact h.linkTree
  · rw [hl, hc]
    exact h.linkCampaign
  · rw [hl]
    exact h.linkOnce
  · rw [ha, ht]
    exact h.assignmentTree
  · rw [ha, hp]
    exact h.assignmentPublisher
  · rw [ha]
    exact h.assignmentOnce

theorem publishers (h : Integral v) {l : List (Uuid × String)} (hnodup : (l.map Prod.snd).Nodup)
    (hids : ∀ id ∈ (v .publishers).map Prod.fst, id ∈ l.map Prod.fst) :
    Integral (Function.update v .publishers l) where
  apiKeys := hnodup
  tokens := h.tokens
  linkTree := h.linkTree
  linkCampaign := h.linkCampaign
  linkOnce := h.linkOnce
  assignmentTree := h.assignmentTree
  assignmentPublisher a ha := hids _ (h.assignmentPublisher a ha)
  assignmentOnce := h.assignmentOnce

theorem nodup_snd_append {l : List (Uuid × String)} {c : Uuid × String} (h : (l.map Prod.snd).Nodup)
    (hfree : c.2 ∉ l.map Prod.snd) : ((l ++ [c]).map Prod.snd).Nodup := by
  rw [List.map_append, List.nodup_append]
  refine ⟨h, List.nodup_singleton _, ?_⟩
  rintro a ha b hb rfl
  rw [List.map_singleton, List.mem_singleton] at hb
  exact hfree (hb ▸ ha)

theorem insert_publisher (h : Integral v) {c : Uuid × String}
    (hfree : c.2 ∉ (v .publishers).map Prod.snd) :
    Integral (Function.update v .publishers (v .publishers ++ [c])) := by
  refine h.publishers (nodup_snd_append h.apiKeys hfree) fun id hid => ?_
  rw [List.map_append]
  exact List.mem_append_left _ hid

theorem insert_campaign (h : Integral v) {c : Uuid × String}
    (hfree : c.2 ∉ (v .campaigns).map Prod.snd) :
    Integral (Function.update v .campaigns (v .campaigns ++ [c])) where
  apiKeys := h.apiKeys
  tokens := nodup_snd_append h.tokens hfree
  linkTree := h.linkTree
  linkCampaign l hl := by
    show l.2 ∈ (v .campaigns ++ [c]).map Prod.fst
    rw [List.map_append]
    exact List.mem_append_left _ (h.linkCampaign l hl)
  linkOnce := h.linkOnce
  assignmentTree := h.assignmentTree
  assignmentPublisher := h.assignmentPublisher
  assignmentOnce := h.assignmentOnce

theorem insert_pingTree (c : Uuid × String) (h : Integral v) :
    Integral (Function.update v .pingTrees (v .pingTrees ++ [c])) where
  apiKeys := h.apiKeys
  tokens := h.tokens
  linkTree l hl := by
    show l.1 ∈ (v .pingTrees ++ [c]).map Prod.fst
    rw [List.map_append]
    exact List.mem_append_left _ (h.linkTree l hl)
  linkCampaign := h.linkCampaign
  linkOnce := h.linkOnce
  assignmentTree a ha := List.mem_append_left _ (h.assignmentTree a ha)
  assignmentPublisher := h.assignmentPublisher
  assignmentOnce := h.assignmentOnce

theorem links (h : Integral v) {l : List (Uuid × Uuid)} (hnodup : l.Nodup)
    (htree : ∀ c ∈ l, c.1 ∈ (v .pingTrees).map Prod.fst)
    (hcampaign : ∀ c ∈ l, c.2 ∈ (v .campaigns).map Prod.fst) :
    Integral (Function.update v .pingTreeCampaigns l) where
  apiKeys := h.apiKeys
  tokens := h.tokens
  linkTree := htree
  linkCampaign := hcampaign
  linkOnce := hnodup
  assignmentTree := h.assignmentTree
  assignmentPublisher := h.assignmentPublisher
  assignmentOnce := h.assignmentOnce

theorem assignments (h : Integral v) {l : List (Uuid × Uuid × String)}
    (hnodup : (l.map Prod.snd).Nodup) (htree : ∀ a ∈ l, (a.1, a.2.2) ∈ v .pingTrees)
    (hpublisher : ∀ a ∈ l, a.2.1 ∈ (v .publishers).map Prod.fst) :
    Integral (Function.update v .pingTreePublishers l) where
  apiKeys := h.apiKeys
  tokens := h.tokens
  linkTree := h.linkTree
  linkCampaign := h.linkCampaign
  linkOnce := h.linkOnce
  assignmentTree := htree
  assignmentPublisher := hpublisher
  assignmentOnce := hnodup

theorem delete_links (h : Integral v) {l : List (Uuid × Uuid)}
    (hl : l.Sublist (v .pingTreeCampaigns)) :
    Integral (Function.update v .pingTreeCampaigns l) :=
  h.links (h.linkOnce.sublist hl) (fun c hc => h.linkTree c (hl.subset hc)) fun c hc =>
    h.linkCampaign c (hl.subset hc)

theorem delete_assignments (h : Integral v) {l : List (Uuid × Uuid × String)}
    (hl : l.Sublist (v .pingTreePublishers)) :
    Integral (Function.update v .pingTreePublishers l) :=
  h.assignments (h.assignmentOnce.sublist (hl.map Prod.snd))
    (fun a ha => h.assignmentTree a (hl.subset ha)) fun a ha =>
    h.assignmentPublisher a (hl.subset ha)

theorem empty : Integral fun _ => [] where
  apiKeys := List.nodup_nil
  tokens := List.nodup_nil
  linkTree _ h := by cases h
  linkCampaign _ h := by cases h
  linkOnce := List.nodup_nil
  assignmentTree _ h := by cases h
  assignmentPublisher _ h := by cases h
  assignmentOnce := List.nodup_nil

end Integral

theorem notMem_map {α β : Type} [DecidableEq β] {l : List α} {f : α → β} {b : β}
    (h : (l.any fun a => f a = b) = false) : b ∉ l.map f := by
  intro hmem
  obtain ⟨a, ha, heq⟩ := List.mem_map.mp hmem
  exact absurd (decide_eq_true heq) (List.any_eq_false.mp h a ha)

/-- A live publisher gets a key that no other publisher has. -/
theorem intact_rekey {s s' : Db} (h : Intact s) {id : Uuid} {hash : String}
    {f : Publisher → Publisher}
    (hrows : (s' .publishers).rows =
      (s .publishers).rows.map fun r => if livePublisher id r then f r else r)
    (hothers : ∀ t, t ≠ .publishers → s' t = s t)
    (hfree : ((s .publishers).rows.any fun r => r.id ≠ id ∧ r.apiKeyHash = hash) = false)
    (hf : ∀ r, cols .publishers (f r) = (r.id, hash)) : Intact s' := by
  have hnodup : (s .publishers).rows.Nodup := List.Nodup.of_map _ (s .publishers).nodup
  have hkeys : ∀ r ∈ (s .publishers).rows, ∀ r' ∈ (s .publishers).rows, r.id = r'.id → r = r' :=
    fun r hr r' hr' heq => List.inj_on_of_nodup_map (s .publishers).nodup hr hr' heq
  have hhash : ((s .publishers).rows.map Publisher.apiKeyHash).Nodup := by
    have hkeys := h.apiKeys
    rwa [view, List.map_map] at hkeys
  -- another row has another id, and so not the new key
  have hother : ∀ r ∈ (s .publishers).rows, ∀ r' ∈ (s .publishers).rows, livePublisher id r = true →
      livePublisher id r' = false → r'.apiKeyHash ≠ hash := by
    intro r hr r' hr' hlive hdead heq
    by_cases hid : r'.id = id
    · have hsame : r' = r := hkeys r' hr' r hr (hid.trans (of_decide_eq_true hlive).1.symm)
      rw [hsame, hlive] at hdead
      cases hdead
    · exact absurd (decide_eq_true ⟨hid, heq⟩) (List.any_eq_false.mp hfree r' hr')
  show Integral (s'.view cols)
  rw [view_eq_update (by rw [hrows, List.map_map]) hothers]
  refine h.publishers ?_ ?_
  · rw [List.map_map]
    refine List.Nodup.map_on (fun r hr r' hr' heq => ?_) hnodup
    simp only [Function.comp_apply] at heq
    cases hlive : livePublisher id r with
    | true =>
      cases hlive' : livePublisher id r' with
      | true =>
        exact hkeys r hr r' hr'
          ((of_decide_eq_true hlive).1.trans (of_decide_eq_true hlive').1.symm)
      | false =>
        rw [hlive, hlive', if_pos rfl, hf] at heq
        exact absurd heq.symm (hother r hr r' hr' hlive hlive')
    | false =>
      cases hlive' : livePublisher id r' with
      | true =>
        rw [hlive, hlive', if_pos rfl, hf] at heq
        exact absurd heq (hother r' hr' r hr hlive' hlive)
      | false =>
        rw [hlive, hlive'] at heq
        exact List.inj_on_of_nodup_map hhash hr hr' heq
  · intro id' hid'
    rw [view, List.map_map] at hid'
    obtain ⟨r, hr, rfl⟩ := List.mem_map.mp hid'
    rw [List.map_map]
    refine List.mem_map.mpr ⟨r, hr, ?_⟩
    show (cols .publishers (if livePublisher id r = true then f r else r)).1 = r.id
    split
    · rw [hf]
    · rfl

/-- A campaign is linked to a ping tree that it is not linked to. -/
theorem intact_link {s s' : Db} (h : Intact s) {link : PingTreeCampaign}
    (hrows : (s' .pingTreeCampaigns).rows = (s .pingTreeCampaigns).rows ++ [link])
    (hothers : ∀ t, t ≠ .pingTreeCampaigns → s' t = s t)
    (htree : ((s .pingTrees).rows.any fun t => t.id = link.pingTreeId) = true)
    (hcampaign : ((s .campaigns).rows.any fun c => c.id = link.campaignId) = true)
    (hfree : ((s .pingTreeCampaigns).rows.any fun l =>
      l.pingTreeId = link.pingTreeId ∧ l.campaignId = link.campaignId) = false) : Intact s' := by
  -- the handler has found both ends of the link
  have hids : link.pingTreeId ∈ (s.view cols .pingTrees).map Prod.fst ∧
      link.campaignId ∈ (s.view cols .campaigns).map Prod.fst := by
    obtain ⟨t, ht, hid⟩ := List.any_eq_true.mp htree
    obtain ⟨c, hc, hid'⟩ := List.any_eq_true.mp hcampaign
    rw [view, view, List.map_map, List.map_map]
    exact ⟨List.mem_map.mpr ⟨t, ht, of_decide_eq_true hid⟩,
      List.mem_map.mpr ⟨c, hc, of_decide_eq_true hid'⟩⟩
  have hnew : (link.pingTreeId, link.campaignId) ∉ s.view cols .pingTreeCampaigns := by
    intro hmem
    obtain ⟨l, hl, heq⟩ := List.mem_map.mp hmem
    have hpair := Prod.mk.inj heq
    exact absurd (decide_eq_true ⟨hpair.1, hpair.2⟩) (List.any_eq_false.mp hfree l hl)
  show Integral (s'.view cols)
  rw [view_insert hrows hothers]
  refine h.links ?_ ?_ ?_
  · refine List.nodup_append.mpr ⟨h.linkOnce, List.nodup_singleton _, ?_⟩
    rintro a ha b hb rfl
    have heq : a = (link.pingTreeId, link.campaignId) := List.mem_singleton.mp hb
    exact hnew (heq ▸ ha)
  · intro l hl
    rcases List.mem_append.mp hl with hl | hl
    · exact h.linkTree l hl
    · rw [List.mem_singleton.mp hl]
      exact hids.1
  · intro l hl
    rcases List.mem_append.mp hl with hl | hl
    · exact h.linkCampaign l hl
    · rw [List.mem_singleton.mp hl]
      exact hids.2

/-- A publisher is assigned to a ping tree, and has none of that vertical. -/
theorem intact_assign {s s' : Db} (h : Intact s) {t : PingTree} {r : Publisher}
    {a : PingTreePublisher}
    (hrows : (s' .pingTreePublishers).rows = (s .pingTreePublishers).rows ++ [a])
    (hothers : ∀ t, t ≠ .pingTreePublishers → s' t = s t) (ht : t ∈ (s .pingTrees).rows)
    (hr : r ∈ (s .publishers).rows) (htree : (a.pingTreeId, a.vertical) = (t.id, t.vertical))
    (hpublisher : a.publisherId = r.id)
    (hfree : ((s .pingTreePublishers).rows.any fun a' => a'.publisherId = a.publisherId ∧
      (a'.vertical = a.vertical ∨ a'.pingTreeId = a.pingTreeId)) = false) : Intact s' := by
  -- the check of the handler, as the uniqueness that the table wants
  have hnew : (a.publisherId, a.vertical) ∉ (s.view cols .pingTreePublishers).map Prod.snd := by
    rw [view, List.map_map]
    intro hmem
    obtain ⟨a', ha', heq⟩ := List.mem_map.mp hmem
    have hpair := Prod.mk.inj heq
    exact absurd (decide_eq_true ⟨hpair.1, Or.inl hpair.2⟩) (List.any_eq_false.mp hfree a' ha')
  show Integral (s'.view cols)
  rw [view_insert hrows hothers]
  refine h.assignments ?_ ?_ ?_
  · rw [List.map_append, List.nodup_append]
    refine ⟨h.assignmentOnce, List.nodup_singleton _, ?_⟩
    rintro b hb c hc rfl
    have heq : b = (a.publisherId, a.vertical) := List.mem_singleton.mp hc
    exact hnew (heq ▸ hb)
  · intro b hb
    rcases List.mem_append.mp hb with hb | hb
    · exact h.assignmentTree b hb
    · rw [List.mem_singleton.mp hb]
      show (a.pingTreeId, a.vertical) ∈ s.view cols .pingTrees
      rw [htree]
      exact List.mem_map_of_mem ht
  · intro b hb
    rcases List.mem_append.mp hb with hb | hb
    · exact h.assignmentPublisher b hb
    · rw [List.mem_singleton.mp hb]
      show a.publisherId ∈ (s.view cols .publishers).map Prod.fst
      rw [hpublisher, view, List.map_map]
      exact List.mem_map_of_mem hr

theorem intact_empty {s : Db} (h : ∀ t, routed t = true → (s t).rows = []) : Intact s := by
  refine Integral.empty.congr fun t ht => ?_
  rw [view, h t ht]
  rfl

theorem intact_of_edit {s s' : Db} (h : Edit s s') (hs : Intact s) : Intact s' := by
  -- edits of columns that the view does not hold leave the view as it is
  have hsame : s'.view cols = s.view cols → Intact s' := by
    intro heq
    show Integral (s'.view cols)
    rwa [heq]
  cases h with
  | other h =>
    refine Integral.congr hs fun t ht => ?_
    rw [view, view, h t ht]
  | newPublisher r hfree hrows hothers =>
    show Integral (s'.view cols)
    rw [view_insert hrows hothers]
    refine hs.insert_publisher ?_
    rw [view, List.map_map]
    exact notMem_map hfree
  | editPublishers p f hf hrows hothers => exact hsame (view_update hf hrows hothers)
  | rekeyPublisher id hash f hf hfree hrows hothers => exact intact_rekey hs hrows hothers hfree hf
  | newCampaign c hfree hrows hothers =>
    show Integral (s'.view cols)
    rw [view_insert hrows hothers]
    refine hs.insert_campaign ?_
    rw [view, List.map_map]
    exact notMem_map hfree
  | editCampaigns p f hf hrows hothers => exact hsame (view_update hf hrows hothers)
  | newPingTree t hlive hrows hothers =>
    show Integral (s'.view cols)
    rw [view_insert hrows hothers]
    exact hs.insert_pingTree _
  | editPingTrees p f hf hdeleted hrows hothers => exact hsame (view_update hf hrows hothers)
  | link l htree hcampaign hfree hrows hothers =>
    exact intact_link hs hrows hothers htree hcampaign hfree
  | relink p f hf hrows hothers => exact hsame (view_update hf hrows hothers)
  | unlink p hrows hothers =>
    show Integral (s'.view cols)
    rw [view_eq_update rfl hothers, hrows]
    exact hs.delete_links (List.filter_sublist.map _)
  | assign a t r ht hlive htree hr hpublisher hfree hrows hothers =>
    exact intact_assign hs hrows hothers ht hr htree hpublisher hfree
  | reassign p f hf hrows hothers => exact hsame (view_update hf hrows hothers)
  | unassign t publisherId ht hlive hrows hothers =>
    show Integral (s'.view cols)
    rw [view_eq_update rfl hothers, hrows]
    exact hs.delete_assignments (List.filter_sublist.map _)

theorem intact_run {cfg : DashConfig} {calls : List DashCall} {s s' : Db} (hs : Intact s)
    (hrun : Transition.run (dashStep cfg) s calls = some s') : Intact s' :=
  edits_run (fun _ _ => intact_of_edit) hs hrun

/-- After every sequence of requests, by any users and whichever statements fail, the rows that the
router reads fit together. -/
theorem intact_from_empty {cfg : DashConfig} {calls : List DashCall} {s s' : Db}
    (h : ∀ t, routed t = true → (s t).rows = [])
    (hrun : Transition.run (dashStep cfg) s calls = some s') : Intact s' :=
  intact_run (intact_empty h) hrun

/-! ### What the rows say of each other -/

section

variable {s : Db} {a a' : PingTreePublisher} {l l' : PingTreeCampaign}

theorem Intact.vertical_eq (h : Intact s) {t : PingTree} (ht : t ∈ (s .pingTrees).rows)
    (ha : a ∈ (s .pingTreePublishers).rows) (hid : t.id = a.pingTreeId) :
    a.vertical = t.vertical := by
  obtain ⟨t', ht', heq⟩ := List.mem_map.mp (h.assignmentTree _ (List.mem_map_of_mem ha))
  have hpair := Prod.mk.inj heq
  have hsame : t' = t :=
    List.inj_on_of_nodup_map (s .pingTrees).nodup ht' ht (hpair.1.trans hid.symm)
  rw [← hsame]
  exact hpair.2.symm

theorem Intact.assignment_unique (h : Intact s) (ha : a ∈ (s .pingTreePublishers).rows)
    (ha' : a' ∈ (s .pingTreePublishers).rows)
    (heq : (a.publisherId, a.vertical) = (a'.publisherId, a'.vertical)) : a = a' := by
  have honce := h.assignmentOnce
  rw [view, List.map_map] at honce
  exact List.inj_on_of_nodup_map honce ha ha' heq

theorem Intact.link_unique (h : Intact s) (hl : l ∈ (s .pingTreeCampaigns).rows)
    (hl' : l' ∈ (s .pingTreeCampaigns).rows)
    (heq : (l.pingTreeId, l.campaignId) = (l'.pingTreeId, l'.campaignId)) : l = l' :=
  List.inj_on_of_nodup_map h.linkOnce hl hl' heq

end

/-! ### Assignments to a deleted ping tree -/

/-- The publisher is assigned to a ping tree of the vertical that is deleted. -/
def Stranded (publisherId : Uuid) (vertical : String) (s : Db) : Prop :=
  ∃ t ∈ (s .pingTrees).rows, ∃ a ∈ (s .pingTreePublishers).rows, t.deletedAt.isSome = true ∧
    (a.pingTreeId, a.publisherId, a.vertical) = (t.id, publisherId, vertical)

theorem mem_map_ite {α : Type} {l : List α} {p : α → Bool} {f : α → α} {a : α} (h : a ∈ l) :
    (if p a then f a else a) ∈ l.map fun a => if p a then f a else a :=
  List.mem_map_of_mem h

/-- A publisher is taken only from a ping tree that is not deleted. -/
theorem Stranded.of_edit {publisherId : Uuid} {vertical : String} {s s' : Db} (h : Edit s s')
    (hs : Stranded publisherId vertical s) : Stranded publisherId vertical s' := by
  obtain ⟨t, ht, a, ha, hdeleted, heq⟩ := hs
  have hsame : ∀ {u}, Only u s s' → .pingTrees ≠ u ∧ .pingTreePublishers ≠ u →
      Stranded publisherId vertical s' := by
    intro u hothers hu
    exact ⟨t, hothers _ hu.1 ▸ ht, a, hothers _ hu.2 ▸ ha, hdeleted, heq⟩
  cases h with
  | other h => exact ⟨t, h .pingTrees rfl ▸ ht, a, h .pingTreePublishers rfl ▸ ha, hdeleted, heq⟩
  | newPublisher r hfree hrows hothers => exact hsame hothers (by decide)
  | editPublishers p f hf hrows hothers => exact hsame hothers (by decide)
  | rekeyPublisher id hash f hf hfree hrows hothers =>
    exact hsame hothers (by decide)
  | newCampaign c hfree hrows hothers => exact hsame hothers (by decide)
  | editCampaigns p f hf hrows hothers => exact hsame hothers (by decide)
  | newPingTree t' hlive hrows hothers =>
    refine ⟨t, ?_, a, ?_, hdeleted, heq⟩
    · rw [hrows]
      exact List.mem_append_left _ ht
    · rwa [hothers _ (by decide)]
  | editPingTrees p f hf hkept hrows hothers =>
    refine ⟨if p t then f t else t, ?_, a, ?_, ?_, ?_⟩
    · rw [hrows]
      exact mem_map_ite ht
    · rwa [hothers _ (by decide)]
    · split
      · exact hkept t hdeleted
      · exact hdeleted
    · split
      · rw [(Prod.mk.inj (hf t)).1, heq]
      · exact heq
  | link l htree hcampaign hfree hrows hothers => exact hsame hothers (by decide)
  | relink p f hf hrows hothers => exact hsame hothers (by decide)
  | unlink p hrows hothers => exact hsame hothers (by decide)
  | assign a' t' r ht' hlive htree hr hpublisher hfree hrows hothers =>
    refine ⟨t, ?_, a, ?_, hdeleted, heq⟩
    · rwa [hothers _ (by decide)]
    · rw [hrows]
      exact List.mem_append_left _ ha
  | reassign p f hf hrows hothers =>
    refine ⟨t, ?_, if p a then f a else a, ?_, hdeleted, ?_⟩
    · rwa [hothers _ (by decide)]
    · rw [hrows]
      exact mem_map_ite ha
    · split
      · rw [hf, heq]
      · exact heq
  | unassign t' publisherId' ht' hlive hrows hothers =>
    refine ⟨t, ?_, a, ?_, hdeleted, heq⟩
    · rwa [hothers _ (by decide)]
    · rw [hrows]
      refine List.mem_filter.mpr ⟨ha, ?_⟩
      rw [Bool.not_eq_true', decide_eq_false_iff_not]
      rintro ⟨htree, -⟩
      -- the ids of ping trees are different, and this one is deleted
      have hid : t.id = t'.id := (Prod.mk.inj heq).1.symm.trans htree
      have hsame : t = t' := List.inj_on_of_nodup_map (s .pingTrees).nodup ht ht' hid
      rw [hsame, hlive] at hdeleted
      cases hdeleted

/-- The deletion of a ping tree leaves the publishers that are assigned to it. -/
theorem stranded_of_deletePingTree (env : DashEnv) {s s' : Db} (hs : Intact s)
    {a : PingTreePublisher} (ha : a ∈ (s .pingTreePublishers).rows) {body : Json}
    (h : deletePingTree env a.pingTreeId s = (.ok body, s')) :
    Stranded a.publisherId a.vertical s' := by
  -- the tree that the publisher is assigned to
  obtain ⟨t, ht, htree⟩ := List.mem_map.mp (hs.assignmentTree _ (List.mem_map_of_mem ha))
  have hid : t.id = a.pingTreeId := (Prod.mk.inj htree).1
  have hdelete : Triple (fun s₁ => s₁ = s) (deletePingTree env a.pingTreeId)
      (fun _ => Stranded a.publisherId a.vertical) fun _ _ => True := by
    refine Triple.bind (Triple.stmt Triple.first fun _ _ _ => trivial) fun pingTree => ?_
    refine Triple.bind (Triple.orStop (fun _ _ _ hs => hs.1) fun _ _ _ => trivial) fun t' => ?_
    refine Triple.bind (Triple.attempt (Triple.bind Triple.rows fun _ => Triple.bind Triple.rows
      fun _ => Triple.pure fun _ hs => hs.1.1) fun _ _ hs => hs) fun affected => ?_
    refine Triple.bind (Triple.stmt (Triple.update (R := Stranded a.publisherId a.vertical)
      fun s₁ s₂ hs₁ hrows hothers => ?_) fun _ _ _ => trivial) fun _ => ?_
    · -- the deletion marks the tree, and the assignment still points at it
      subst hs₁
      refine ⟨{ t with deletedAt := some env.now }, ?_, a, ?_, rfl, ?_⟩
      · rw [hrows]
        have hmem := List.mem_map_of_mem (f := fun t : PingTree =>
          if t.id = a.pingTreeId then { t with deletedAt := some env.now } else t) ht
        rw [if_pos hid] at hmem
        simpa using hmem
      · rwa [hothers _ (by decide)]
      · rw [hid]
    · -- the audit log touches neither table
      exact Triple.bind ((chains_createAuditLog env _).triple_keeps (fun _ _ => Stranded.of_edit)
        fun _ _ _ => trivial) fun _ => Triple.pure fun _ hs => hs
  exact (hdelete s rfl).1 body s' h

end Dashboard

namespace Sample

open Dashboard

/-- An instance, and nothing in it. -/
def newInstance : Dashboard.Db where
  tables
    | .instances => ⟨[⟨2, some 7, none⟩], by decide⟩
    | _ => .empty

/-- A ping tree and a campaign in it are created, and the campaign is added once more. -/
def fillCalls : List DashCall :=
  [dashCall 1 (.createPingTree ⟨"Main", "solar", "ping_post", some 2, none⟩),
    dashCall 2 (.createCampaign (newCampaign (some 1000))),
    dashCall 3 (.addCampaignToPingTree 1000 2000 (some 5))]

theorem intact_fillCalls : ∃ s',
    Transition.run (dashStep dashConfig) newInstance fillCalls = some s' ∧
    (s' .pingTreeCampaigns).rows.length = 1 ∧ Intact s' := by
  refine ⟨_, rfl, rfl, ?_⟩
  refine intact_from_empty ?_ (rfl : Transition.run (dashStep dashConfig) newInstance fillCalls = _)
  intro t ht
  cases t <;> first | rfl | cases ht

end Sample

end LeadsNebula
