import Mathlib.Data.List.Forall2
import Mathlib.Data.Set.Insert
import Mathlib.Data.Set.Operations

/-! MQTT topics and topic filters, and the subscriptions of a client: which topics a filter selects, and
what is subscribed while the filters of some items are added and removed for all receivers. -/
namespace Mqtt

section Filters

/-- The levels of a topic or of a topic filter. -/
def levels (topic : List Char) : List (List Char) := topic.splitOn '/'

/-- `+` stands for one level, and a last `#` for any number of them. -/
def selects : (filter topic : List (List Char)) → Bool
  | [], ls => ls.isEmpty
  | f :: fs, [] => f = ['#'] && fs.isEmpty
  | f :: fs, l :: ls => (f = ['#'] && fs.isEmpty) || ((f = ['+'] || f = l) && selects fs ls)

/-- The filter selects the topic. -/
def Matches (filter topic : List Char) : Prop := selects (levels filter) (levels topic) = true

instance (filter topic : List Char) : Decidable (Matches filter topic) :=
  inferInstanceAs (Decidable (_ = true))

/-- A level of a topic has no separator and no wildcard in it. -/
structure IsLevel (l : List Char) : Prop where
  separator : '/' ∉ l
  single : '+' ∉ l
  multi : '#' ∉ l

variable {fs ls : List (List Char)} {f l topic : List Char}

theorem IsLevel.ne_single (h : IsLevel l) : l ≠ ['+'] := by
  intro heq
  exact h.single (by simp [heq])

theorem IsLevel.ne_multi (h : IsLevel l) : l ≠ ['#'] := by
  intro heq
  exact h.multi (by simp [heq])

theorem selects_iff_forall₂ (h : ['#'] ∉ fs) :
    selects fs ls = true ↔ List.Forall₂ (fun f l => f = ['+'] ∨ f = l) fs ls := by
  induction fs generalizing ls with
  | nil =>
    cases ls with
    | nil => exact iff_of_true rfl List.Forall₂.nil
    | cons l ls => exact iff_of_false (by simp [selects]) fun hall => nomatch hall
  | cons f fs ih =>
    rw [List.mem_cons, not_or] at h
    have hf : ¬ f = ['#'] := fun heq => h.1 heq.symm
    cases ls with
    | nil => exact iff_of_false (by simp [selects, hf]) fun hall => nomatch hall
    | cons l ls =>
      rw [List.forall₂_cons, ← ih h.2]
      simp [selects, hf]

theorem notMem_of_mem_levels (h : l ∈ levels topic) : '/' ∉ l := by
  unfold levels at h
  induction topic generalizing l with
  | nil =>
    rw [List.splitOn_nil, List.mem_singleton] at h
    simp [h]
  | cons c topic ih =>
    rw [List.splitOn_cons_eq_if_modifyHead] at h
    split_ifs at h with hc
    · rcases List.mem_cons.mp h with rfl | h
      · simp
      · exact ih h
    · cases hsplit : topic.splitOn '/' with
      | nil => exact absurd hsplit (List.splitOn_ne_nil _ _)
      | cons first rest =>
        rw [hsplit, List.modifyHead_cons] at h
        rcases List.mem_cons.mp h with rfl | h
        · have hfirst : '/' ∉ first := ih (hsplit ▸ List.mem_cons_self)
          rw [List.mem_cons, not_or]
          exact ⟨fun heq => hc (by simp [← heq]), hfirst⟩
        · exact ih (hsplit ▸ List.mem_cons_of_mem _ h)

/-- What a filter that is given by its levels selects. -/
theorem matches_intercalate_iff (hfs : fs ≠ []) (hlevels : ∀ f ∈ fs, '/' ∉ f) (h : ['#'] ∉ fs) :
    Matches (['/'].intercalate fs) topic ↔
      ∃ ls, List.Forall₂ (fun f l => f = ['+'] ∨ f = l) fs ls ∧ (∀ l ∈ ls, '/' ∉ l) ∧
        topic = ['/'].intercalate ls := by
  unfold Matches levels
  rw [List.splitOn_intercalate _ hlevels hfs, selects_iff_forall₂ h]
  constructor
  · intro hselects
    refine ⟨topic.splitOn '/', hselects, ?_, (List.intercalate_splitOn '/').symm⟩
    exact fun l hl => notMem_of_mem_levels hl
  · intro hexists
    obtain ⟨ls, hselects, hls, rfl⟩ := hexists
    have hne : ls ≠ [] := by
      intro hnil
      rw [hnil] at hselects
      cases hselects
      exact hfs rfl
    rw [List.splitOn_intercalate _ hls hne]
    exact hselects

theorem forall₂_selected_iff (h : ∀ f ∈ fs, f ≠ ['+']) :
    List.Forall₂ (fun f l => f = ['+'] ∨ f = l) fs ls ↔ ls = fs := by
  induction fs generalizing ls with
  | nil => rw [List.forall₂_nil_left_iff]
  | cons f fs ih =>
    rw [List.forall_mem_cons] at h
    rw [List.forall₂_cons_left_iff]
    constructor
    · intro hall
      obtain ⟨l, rest, hfl, hrest, rfl⟩ := hall
      rw [(ih h.2).mp hrest, hfl.resolve_left h.1]
    · intro heq
      exact ⟨f, fs, Or.inr rfl, (ih h.2).mpr rfl, heq⟩

/-- A filter with one level open selects the topics that are alike but for this level. -/
theorem matches_single_iff {front back : List (List Char)} (hfront : ∀ f ∈ front, IsLevel f)
    (hback : ∀ f ∈ back, IsLevel f) :
    Matches (['/'].intercalate (front ++ ['+'] :: back)) topic ↔
      ∃ l, '/' ∉ l ∧ topic = ['/'].intercalate (front ++ l :: back) := by
  have hlevels : ∀ f ∈ front ++ ['+'] :: back, '/' ∉ f := by
    intro f hf
    rcases List.mem_append.mp hf with hf | hf
    · exact (hfront f hf).separator
    · rcases List.mem_cons.mp hf with rfl | hf
      · decide
      · exact (hback f hf).separator
  have hmulti : ['#'] ∉ front ++ ['+'] :: back := by
    intro hmem
    rcases List.mem_append.mp hmem with hmem | hmem
    · exact (hfront _ hmem).ne_multi rfl
    · rcases List.mem_cons.mp hmem with heq | hmem
      · exact absurd heq (by decide)
      · exact (hback _ hmem).ne_multi rfl
  have hselected : ∀ ls, List.Forall₂ (fun f l => f = ['+'] ∨ f = l) (front ++ ['+'] :: back) ls ↔
      ∃ l, ls = front ++ l :: back := by
    intro ls
    induction front generalizing ls with
    | nil =>
      rw [List.nil_append, List.forall₂_cons_left_iff]
      have hrest := fun rest => @forall₂_selected_iff back rest fun f hf => (hback f hf).ne_single
      simp only [hrest]
      simp
    | cons f front ih =>
      rw [List.forall_mem_cons] at hfront
      rw [List.cons_append, List.forall₂_cons_left_iff]
      have hne : ¬ f = ['+'] := hfront.1.ne_single
      have hrest := ih hfront.2 (fun g hg => hlevels g (List.mem_cons_of_mem _ hg))
        fun hmem => hmulti (List.mem_cons_of_mem _ hmem)
      simp only [hrest, hne, false_or]
      constructor
      · intro hexists
        obtain ⟨_, _, rfl, ⟨l, rfl⟩, rfl⟩ := hexists
        exact ⟨l, rfl⟩
      · intro hexists
        obtain ⟨l, rfl⟩ := hexists
        exact ⟨f, _, rfl, ⟨l, rfl⟩, rfl⟩
  rw [matches_intercalate_iff (by simp) hlevels hmulti]
  simp only [hselected]
  constructor
  · intro h
    obtain ⟨_, ⟨l, rfl⟩, hls, htopic⟩ := h
    exact ⟨l, hls l (by simp), htopic⟩
  · intro h
    obtain ⟨l, hl, htopic⟩ := h
    refine ⟨_, ⟨l, rfl⟩, ?_, htopic⟩
    intro x hx
    rcases List.mem_append.mp hx with hx | hx
    · exact (hfront x hx).separator
    · rcases List.mem_cons.mp hx with rfl | hx
      · exact hl
      · exact (hback x hx).separator

end Filters

/-- A client of a broker, with what is subscribed for its receivers: a filter is subscribed for a
receiver or not, however often it is subscribed. -/
structure Client (σ ρ : Type*) where
  none : σ
  subscribe : σ → (filter : String) → ρ → σ
  unsubscribe : σ → (filter : String) → ρ → σ
  live : σ → Set (String × ρ)
  live_none : live none = ∅
  live_subscribe : ∀ s f r, live (subscribe s f r) = insert (f, r) (live s)
  live_unsubscribe : ∀ s f r, live (unsubscribe s f r) = live s \ {(f, r)}

namespace Client

variable {σ ρ α : Type*} (client : Client σ ρ)

def receivers (s : σ) (topic : String) : Set ρ :=
  {r | ∃ f, (f, r) ∈ client.live s ∧ Matches f.toList topic.toList}

def subscribeAll (s : σ) (fs : List String) (r : ρ) : σ :=
  fs.foldl (fun s f => client.subscribe s f r) s

def unsubscribeAll (s : σ) (fs : List String) (r : ρ) : σ :=
  fs.foldl (fun s f => client.unsubscribe s f r) s

variable {client} {s : σ} {p : String × ρ}

theorem mem_live_subscribeAll {fs : List String} {r : ρ} :
    p ∈ client.live (client.subscribeAll s fs r) ↔ p ∈ client.live s ∨ p.1 ∈ fs ∧ p.2 = r := by
  unfold subscribeAll
  induction fs generalizing s with
  | nil => simp
  | cons f fs ih =>
    rw [List.foldl_cons, ih, client.live_subscribe, Set.mem_insert_iff, List.mem_cons, Prod.ext_iff]
    tauto

theorem mem_live_unsubscribeAll {fs : List String} {r : ρ} :
    p ∈ client.live (client.unsubscribeAll s fs r) ↔
      p ∈ client.live s ∧ ¬ (p.1 ∈ fs ∧ p.2 = r) := by
  unfold unsubscribeAll
  induction fs generalizing s with
  | nil => simp
  | cons f fs ih =>
    rw [List.foldl_cons, ih, client.live_unsubscribe, Set.mem_sdiff, Set.mem_singleton_iff,
      List.mem_cons, Prod.ext_iff]
    tauto

variable {filters : ρ → List String} {rs : List ρ}

theorem mem_live_foldl_subscribeAll :
    p ∈ client.live (rs.foldl (fun s r => client.subscribeAll s (filters r) r) s) ↔
      p ∈ client.live s ∨ p.2 ∈ rs ∧ p.1 ∈ filters p.2 := by
  induction rs generalizing s with
  | nil => simp
  | cons r rs ih =>
    rw [List.foldl_cons, ih, mem_live_subscribeAll, List.mem_cons]
    constructor
    · intro hmem
      rcases hmem with (hlive | ⟨hf, hr⟩) | ⟨hr, hf⟩
      · exact Or.inl hlive
      · exact Or.inr ⟨Or.inl hr, hr ▸ hf⟩
      · exact Or.inr ⟨Or.inr hr, hf⟩
    · intro hmem
      rcases hmem with hlive | ⟨hr | hr, hf⟩
      · exact Or.inl (Or.inl hlive)
      · exact Or.inl (Or.inr ⟨hr ▸ hf, hr⟩)
      · exact Or.inr ⟨hr, hf⟩

theorem mem_live_foldl_unsubscribeAll :
    p ∈ client.live (rs.foldl (fun s r => client.unsubscribeAll s (filters r) r) s) ↔
      p ∈ client.live s ∧ ¬ (p.2 ∈ rs ∧ p.1 ∈ filters p.2) := by
  induction rs generalizing s with
  | nil => simp
  | cons r rs ih =>
    rw [List.foldl_cons, ih, mem_live_unsubscribeAll, List.mem_cons, and_assoc]
    apply and_congr_right
    intro _
    constructor
    · intro h hmem
      rcases hmem with ⟨hr | hr, hf⟩
      · exact h.1 ⟨hr ▸ hf, hr⟩
      · exact h.2 ⟨hr, hf⟩
    · intro h
      exact ⟨fun hmem => h ⟨Or.inl hmem.2, hmem.2 ▸ hmem.1⟩, fun hmem => h ⟨Or.inr hmem.1, hmem.2⟩⟩

def listed (ρ : Type*) [DecidableEq ρ] : Client (List (String × ρ)) ρ where
  none := []
  subscribe s f r := (f, r) :: s
  unsubscribe s f r := s.filter (· ≠ (f, r))
  live s := {p | p ∈ s}
  live_none := by simp
  live_subscribe s f r := by
    ext p
    simp
  live_unsubscribe s f r := by
    ext p
    simp

end Client

section Items

variable {σ ρ α : Type*} {client : Client σ ρ} {s : σ}

/-- What is subscribed for the items of a set, when each item has its filters for each receiver. -/
def subscriptionsFor (filters : ρ → α → List String) (rs : List ρ) (A : Set α) :
    Set (String × ρ) :=
  {p | p.2 ∈ rs ∧ ∃ a ∈ A, p.1 ∈ filters p.2 a}

variable {filters : ρ → α → List String} {rs : List ρ} {A B : Set α} {a : α}

theorem mem_subscriptionsFor {p : String × ρ} :
    p ∈ subscriptionsFor filters rs A ↔ p.2 ∈ rs ∧ ∃ a ∈ A, p.1 ∈ filters p.2 a := Iff.rfl

theorem live_subscribe_item (h : client.live s = subscriptionsFor filters rs A) :
    client.live (rs.foldl (fun s r => client.subscribeAll s (filters r a) r) s) =
      subscriptionsFor filters rs (insert a A) := by
  ext p
  rw [Client.mem_live_foldl_subscribeAll, h, mem_subscriptionsFor, mem_subscriptionsFor,
    Set.exists_mem_insert, ← and_or_left, or_comm]

/-- An item is removed for all receivers; filters of one item are not those of another. -/
theorem live_unsubscribe_item
    (hfilters : ∀ r ∈ rs, ∀ a b f, f ∈ filters r a → f ∈ filters r b → a = b)
    (h : client.live s = subscriptionsFor filters rs A) :
    client.live (rs.foldl (fun s r => client.unsubscribeAll s (filters r a) r) s) =
      subscriptionsFor filters rs (A \ {a}) := by
  ext p
  rw [Client.mem_live_foldl_unsubscribeAll, h, mem_subscriptionsFor, mem_subscriptionsFor]
  constructor
  · intro hmem
    obtain ⟨⟨hr, b, hb, hf⟩, hnot⟩ := hmem
    refine ⟨hr, b, ⟨hb, fun heq => hnot ⟨hr, ?_⟩⟩, hf⟩
    exact heq ▸ hf
  · intro hmem
    obtain ⟨hr, b, ⟨hb, hne⟩, hf⟩ := hmem
    exact ⟨⟨hr, b, hb, hf⟩, fun hf' => hne (hfilters p.2 hr b a p.1 hf hf'.2)⟩

/-- The items are told from what is subscribed, if some receiver has a filter for each of them. -/
theorem subscriptionsFor_inj (hfilters : ∀ r ∈ rs, ∀ a b f, f ∈ filters r a → f ∈ filters r b → a = b)
    {r : ρ} (hr : r ∈ rs) (hne : ∀ a, filters r a ≠ []) :
    subscriptionsFor filters rs A = subscriptionsFor filters rs B ↔ A = B := by
  constructor
  · intro h
    have hmem : ∀ A : Set α, ∀ a, a ∈ A ↔
        ((filters r a).head (hne a), r) ∈ subscriptionsFor filters rs A := by
      intro A a
      have hhead : (filters r a).head (hne a) ∈ filters r a := List.head_mem _
      constructor
      · exact fun ha => ⟨hr, a, ha, hhead⟩
      · intro hsubscribed
        obtain ⟨-, b, hb, hf⟩ := hsubscribed
        rw [hfilters r hr a b _ hhead hf]
        exact hb
    ext a
    rw [hmem A, hmem B, h]
  · exact fun h => h ▸ rfl

end Items

section Retained

variable {μ : Type*}

/-- A message that is published; one without a payload is empty. -/
structure Publication (μ : Type*) where
  topic : String
  payload : Option μ
  retain : Bool

/-- What a broker retains for each topic after a message. A retained message replaces that of its topic,
and an empty one removes it. -/
def retained (store : String → Option μ) (p : Publication μ) : String → Option μ :=
  if p.retain then Function.update store p.topic p.payload else store

/-- What a message leaves with the broker. -/
def Publication.left (p : Publication μ) : Option (String × μ) :=
  if p.retain then p.payload.map fun m => (p.topic, m) else none

variable {store : String → Option μ} {p : Publication μ} {w : String × μ}

theorem retained_of_left (h : p.left = some w) :
    retained store p = Function.update store w.1 (some w.2) := by
  unfold Publication.left at h
  split_ifs at h with hretain
  obtain ⟨m, hm, rfl⟩ := Option.map_eq_some_iff.mp h
  rw [retained, if_pos hretain, hm]

/-- A message that leaves nothing removes something only if it is empty and retained. -/
theorem retained_of_not_left (h : p.left = none) (hempty : p.payload = none → p.retain = false) :
    retained store p = store := by
  unfold retained
  split_ifs with hretain
  · rw [Publication.left, if_pos hretain, Option.map_eq_none_iff] at h
    rw [hempty h] at hretain
    cases hretain
  · rfl

end Retained

end Mqtt
