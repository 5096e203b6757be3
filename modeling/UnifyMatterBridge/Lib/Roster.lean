import Mathlib.Data.Set.Insert

/-! Groups that are kept on two sides: one side knows the members of each group, the members of the other
side know the names of their groups. What the operations on both sides do to their agreement. -/
namespace Roster

variable {γ ε υ : Type*}

/-- The members that can be seen know the names of their groups, and no other names. -/
def Agree (visible : Set ε) (member : γ → ε → Prop) (name : γ → Option υ) (known : ε → Set υ) : Prop :=
  ∀ e ∈ visible, (∀ g, member g e → ∃ u ∈ known e, name g = some u) ∧
    ∀ u ∈ known e, ∃ g, member g e ∧ name g = some u

variable {visible : Set ε} {member member' : γ → ε → Prop} {name name' : γ → Option υ}
  {known known' : ε → Set υ} {e₀ : ε} {g₀ : γ}

theorem agree_congr (hmember : ∀ e ∈ visible, ∀ g, member' g e ↔ member g e)
    (hname : ∀ e ∈ visible, ∀ g, member g e → name' g = name g)
    (hknown : ∀ e ∈ visible, known' e = known e) :
    Agree visible member' name' known' ↔ Agree visible member name known := by
  apply forall₂_congr
  intro e he
  rw [hknown e he]
  have hmembers : ∀ g u, member' g e ∧ name' g = some u ↔ member g e ∧ name g = some u := by
    intro g u
    rw [hmember e he]
    apply and_congr_right
    intro hg
    rw [hname e he g hg]
  apply and_congr
  · apply forall_congr'
    intro g
    rw [hmember e he]
    apply forall_congr'
    intro hg
    rw [hname e he g hg]
  · simp only [hmembers]

/-- A member is to join a group: the other side is told a name, and the one side may decline. Only a
group without members is given a new name. -/
theorem agree_join_iff (h : Agree visible member name known) {told : Option υ} {accepted : Prop}
    (hmember : ∀ g e, member' g e ↔ member g e ∨ accepted ∧ g = g₀ ∧ e = e₀)
    (hname : ∀ g e, member g e → name' g = name g)
    (htold : ∀ u, told = some u → name' g₀ = some u)
    (hknown : ∀ e ∈ visible, ∀ u, u ∈ known' e ↔ u ∈ known e ∨ e = e₀ ∧ told = some u) :
    Agree visible member' name' known' ↔ (e₀ ∈ visible →
      (accepted → ∃ u, name' g₀ = some u ∧ (u ∈ known e₀ ∨ told = some u)) ∧
        (¬ accepted → ∀ u, told = some u → u ∈ known e₀)) := by
  constructor
  · intro h' he
    obtain ⟨hgroups, hnames⟩ := h' e₀ he
    constructor
    · intro haccepted
      obtain ⟨u, hu, hname₀⟩ := hgroups g₀ ((hmember g₀ e₀).mpr (Or.inr ⟨haccepted, rfl, rfl⟩))
      refine ⟨u, hname₀, ((hknown e₀ he u).mp hu).imp_right And.right⟩
    · intro hdeclined u hu
      obtain ⟨g, hg, hname'⟩ := hnames u ((hknown e₀ he u).mpr (Or.inr ⟨rfl, hu⟩))
      rcases (hmember g e₀).mp hg with hg | ⟨haccepted, -⟩
      · obtain ⟨u', hu', hname₀⟩ := (h e₀ he).1 g hg
        rw [hname g e₀ hg, hname₀] at hname'
        exact Option.some.inj hname' ▸ hu'
      · exact absurd haccepted hdeclined
  · intro hcondition e he
    constructor
    · intro g hg
      rcases (hmember g e).mp hg with hg | ⟨haccepted, rfl, rfl⟩
      · obtain ⟨u, hu, hname₀⟩ := (h e he).1 g hg
        exact ⟨u, (hknown e he u).mpr (Or.inl hu), (hname g e hg).trans hname₀⟩
      · obtain ⟨u, hname₀, hu⟩ := (hcondition he).1 haccepted
        exact ⟨u, (hknown e he u).mpr (hu.imp_right fun hu => ⟨rfl, hu⟩), hname₀⟩
    · intro u hu
      have hold : u ∈ known e → ∃ g, member' g e ∧ name' g = some u := by
        intro hu
        obtain ⟨g, hg, hname₀⟩ := (h e he).2 u hu
        exact ⟨g, (hmember g e).mpr (Or.inl hg), (hname g e hg).trans hname₀⟩
      rcases (hknown e he u).mp hu with hu | ⟨rfl, hu⟩
      · exact hold hu
      · by_cases haccepted : accepted
        · exact ⟨g₀, (hmember g₀ e).mpr (Or.inr ⟨haccepted, rfl, rfl⟩), htold u hu⟩
        · exact hold ((hcondition he).2 haccepted u hu)

/-- A member leaves a group, which loses its name. -/
theorem agree_leave_iff (h : Agree visible member name known) {u₀ : υ} (hu₀ : name g₀ = some u₀)
    (hmember : ∀ g e, member' g e ↔ member g e ∧ ¬ (g = g₀ ∧ e = e₀))
    (hgone : name' g₀ = none) (hkept : ∀ g, g ≠ g₀ → name' g = name g)
    (hknown : ∀ e ∈ visible, ∀ u, u ∈ known' e ↔ u ∈ known e ∧ ¬ (e = e₀ ∧ u = u₀)) :
    Agree visible member' name' known' ↔ (∀ e ∈ visible, member g₀ e → e = e₀) ∧
      (e₀ ∈ visible → ∀ g, member g e₀ → name g = some u₀ → g = g₀) := by
  constructor
  · intro h'
    constructor
    · intro e he hg
      by_contra hne
      obtain ⟨u, -, hname₀⟩ := (h' e he).1 g₀ ((hmember g₀ e).mpr ⟨hg, fun heq => hne heq.2⟩)
      rw [hgone] at hname₀
      cases hname₀
    · intro he g hg hnamed
      by_contra hne
      obtain ⟨u, hu, hname₀⟩ := (h' e₀ he).1 g ((hmember g e₀).mpr ⟨hg, fun heq => hne heq.1⟩)
      rw [hkept g hne, hnamed] at hname₀
      exact ((hknown e₀ he u).mp hu).2 ⟨rfl, (Option.some.inj hname₀).symm⟩
  · rintro ⟨hlast, hsingle⟩ e he
    constructor
    · intro g hg
      obtain ⟨hg, hstays⟩ := (hmember g e).mp hg
      have hne : g ≠ g₀ := by
        rintro rfl
        exact hstays ⟨rfl, hlast e he hg⟩
      obtain ⟨u, hu, hname₀⟩ := (h e he).1 g hg
      refine ⟨u, (hknown e he u).mpr ⟨hu, ?_⟩, (hkept g hne).trans hname₀⟩
      rintro ⟨rfl, rfl⟩
      exact hne (hsingle he g hg hname₀)
    · intro u hu
      obtain ⟨hu, hstays⟩ := (hknown e he u).mp hu
      obtain ⟨g, hg, hname₀⟩ := (h e he).2 u hu
      have hne : g ≠ g₀ := by
        rintro rfl
        exact hstays ⟨hlast e he hg, Option.some.inj (hname₀.symm.trans hu₀)⟩
      exact ⟨g, (hmember g e).mpr ⟨hg, fun heq => hne heq.1⟩, (hkept g hne).trans hname₀⟩

/-- A member leaves all groups of a kind, which lose their names, and forgets all names. -/
theorem agree_clear_iff (h : Agree visible member name known) {kind : γ → Prop}
    (hmember : ∀ g e, member' g e ↔ member g e ∧ ¬ (kind g ∧ e = e₀))
    (hgone : ∀ g e, member g e → kind g → name' g = none)
    (hkept : ∀ g, ¬ kind g → name' g = name g)
    (hknown : ∀ e ∈ visible, ∀ u, u ∈ known' e ↔ u ∈ known e ∧ e ≠ e₀) :
    Agree visible member' name' known' ↔ (∀ e ∈ visible, ∀ g, member g e → kind g → e = e₀) ∧
      (e₀ ∈ visible → ∀ g, member g e₀ → kind g) := by
  constructor
  · intro h'
    constructor
    · intro e he g hg hkind
      by_contra hne
      obtain ⟨u, -, hname₀⟩ := (h' e he).1 g ((hmember g e).mpr ⟨hg, fun heq => hne heq.2⟩)
      rw [hgone g e hg hkind] at hname₀
      cases hname₀
    · intro he g hg
      by_contra hkind
      obtain ⟨u, hu, -⟩ := (h' e₀ he).1 g ((hmember g e₀).mpr ⟨hg, fun heq => hkind heq.1⟩)
      exact ((hknown e₀ he u).mp hu).2 rfl
  · rintro ⟨hlast, hall⟩ e he
    constructor
    · intro g hg
      obtain ⟨hg, hstays⟩ := (hmember g e).mp hg
      have hkind : ¬ kind g := fun hkind => hstays ⟨hkind, hlast e he g hg hkind⟩
      obtain ⟨u, hu, hname₀⟩ := (h e he).1 g hg
      refine ⟨u, (hknown e he u).mpr ⟨hu, ?_⟩, (hkept g hkind).trans hname₀⟩
      rintro rfl
      exact hkind (hall he g hg)
    · intro u hu
      obtain ⟨hu, hne⟩ := (hknown e he u).mp hu
      obtain ⟨g, hg, hname₀⟩ := (h e he).2 u hu
      have hkind : ¬ kind g := fun hkind => hne (hlast e he g hg hkind)
      exact ⟨g, (hmember g e).mpr ⟨hg, fun heq => hkind heq.1⟩, (hkept g hkind).trans hname₀⟩

/-- The name of a group is known to its members only, if and only if who is in another group of that name
is a member as well. -/
theorem Agree.known_iff (h : Agree visible member name known) {u₀ : υ} (hu₀ : name g₀ = some u₀) :
    (∀ e ∈ visible, u₀ ∈ known e ↔ member g₀ e) ↔
      ∀ g, name g = some u₀ → ∀ e ∈ visible, member g e → member g₀ e := by
  constructor
  · intro hmembers g hname e he hg
    obtain ⟨u, hu, hname'⟩ := (h e he).1 g hg
    rw [hname] at hname'
    exact (hmembers e he).mp (Option.some.inj hname' ▸ hu)
  · intro hshared e he
    constructor
    · intro hu
      obtain ⟨g, hg, hname⟩ := (h e he).2 u₀ hu
      exact hshared g hname e he hg
    · intro hg
      obtain ⟨u, hu, hname⟩ := (h e he).1 g₀ hg
      rw [hu₀] at hname
      exact Option.some.inj hname ▸ hu

end Roster
