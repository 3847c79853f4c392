import Mathlib.Logic.Relation
import UiSchema.Proofs.Dict
import UiSchema.Registry.BuiltIn

/-!
# The component map of a configuration

Every component has a renderer of its own that echoes its name. Aliases are bound one after the
other, each to the renderer that its target has by then. So a name stands for one component or for
none, and `Sources` tells for which by the names alone: an alias stands for what its target stands
for when its turn comes, and nothing that is bound is lost. Aliases that lead only to each other or
out of the configuration stay without a renderer and are reported.
-/

namespace UiSchema

set_option autoImplicit false

/-- The component that a name stands for, if it stands for one. -/
abbrev Sources := String → Option String

namespace Sources

/-- An alias takes the source of its target, if the target has one. -/
def bindAlias (f : Sources) (name target : String) : Sources := fun n =>
  if n = name then (f target).or (f n) else f n

def bindAliases (f : Sources) : Dict String → Sources
  | [] => f
  | (name, target) :: rest => (f.bindAlias name target).bindAliases rest

variable {f : Sources} {aliases : Dict String} {name target n s : String}

theorem bindAlias_self (f : Sources) (name target : String) :
    f.bindAlias name target name = (f target).or (f name) := if_pos rfl

theorem bindAlias_of_ne (h : n ≠ name) : f.bindAlias name target n = f n := if_neg h

theorem bindAlias_of_none (h : f target = none) : f.bindAlias name target = f := by
  funext n
  rw [bindAlias, h, Option.none_or, ite_self]

theorem bindAliases_of_not_mem (h : n ∉ Dict.keys aliases) : f.bindAliases aliases n = f n := by
  induction aliases generalizing f with
  | nil => rfl
  | cons first rest ih =>
    obtain ⟨hfirst, hrest⟩ := not_or.mp (mt List.mem_cons.mpr h)
    rw [bindAliases, ih hrest, bindAlias_of_ne hfirst]

/-- Binding aliases takes no source away. -/
theorem isSome_bindAliases (h : (f n).isSome = true) (aliases : Dict String) :
    (f.bindAliases aliases n).isSome = true := by
  induction aliases generalizing f with
  | nil => exact h
  | cons first rest ih =>
    refine ih ?_
    unfold bindAlias
    split
    · rw [Option.isSome_or, h, Bool.or_true]
    · exact h

/-- All sources are sources from before. -/
theorem forall_bindAlias {p : String → Prop} (h : ∀ n s, f n = some s → p s)
    (name target : String) : ∀ n s, f.bindAlias name target n = some s → p s := by
  intro n s hn
  unfold bindAlias at hn
  split at hn
  · rcases Option.or_eq_some_iff.mp hn with htarget | ⟨_, hself⟩
    · exact h target s htarget
    · exact h n s hself
  · exact h n s hn

theorem forall_bindAliases {p : String → Prop} (h : ∀ n s, f n = some s → p s)
    (aliases : Dict String) : ∀ n s, f.bindAliases aliases n = some s → p s := by
  induction aliases generalizing f with
  | nil => exact h
  | cons first rest ih => exact ih (forall_bindAlias h first.1 first.2)

/-- An alias of what is no alias itself takes its source. -/
theorem bindAliases_of_get? (haliases : (Dict.keys aliases).Nodup)
    (hname : Dict.get? aliases name = some target) (htarget : target ∉ Dict.keys aliases)
    (hsource : f target = some s) : f.bindAliases aliases name = some s := by
  induction aliases generalizing f with
  | nil => cases hname
  | cons first rest ih =>
    obtain ⟨k, t⟩ := first
    obtain ⟨hk, hrest⟩ := List.nodup_cons.mp haliases
    obtain ⟨htk, htrest⟩ := not_or.mp (mt List.mem_cons.mpr htarget)
    rw [bindAliases]
    by_cases hkn : k = name
    · subst hkn
      have ht : t = target := Option.some.inj ((if_pos rfl).symm.trans hname)
      rw [bindAliases_of_not_mem hk, bindAlias_self, ht, hsource, Option.some_or]
    · rw [Dict.get?, if_neg hkn] at hname
      exact ih hrest hname htrest ((bindAlias_of_ne htk).trans hsource)

/-- The aliases whose target has no source when it is their turn. -/
def unresolved (f : Sources) : Dict String → Dict String
  | [] => []
  | (name, target) :: rest =>
    let own := if (f target).isSome then [] else [(name, target)]
    own ++ (f.bindAlias name target).unresolved rest

section Closed

-- names without a source, none of them an alias of a name that has one
variable {lost : String → Prop}

theorem bindAlias_of_closed (hnone : ∀ n, lost n → f n = none) (hclosed : lost name → lost target) :
    ∀ n, lost n → f.bindAlias name target n = none := by
  intro n hn
  by_cases hname : n = name
  · rw [bindAlias_of_none (hnone target (hclosed (hname ▸ hn))), hnone n hn]
  · rw [bindAlias_of_ne hname, hnone n hn]

/-- An alias of a lost name keeps the source it has. -/
theorem bindAliases_self_of_closed (hnone : ∀ n, lost n → f n = none)
    (hclosed : ∀ entry ∈ aliases, lost entry.1 → lost entry.2)
    (hname : ∀ entry ∈ aliases, entry.1 = name → lost entry.2) :
    f.bindAliases aliases name = f name := by
  induction aliases generalizing f with
  | nil => rfl
  | cons first rest ih =>
    obtain ⟨hfirst, hrest⟩ := List.forall_mem_cons.mp hclosed
    obtain ⟨hself, hself'⟩ := List.forall_mem_cons.mp hname
    refine (ih (bindAlias_of_closed hnone hfirst) hrest hself').trans ?_
    by_cases heq : name = first.1
    · rw [bindAlias_of_none (hnone _ (hself heq.symm))]
    · exact bindAlias_of_ne heq

theorem mem_unresolved_of_closed (hnone : ∀ n, lost n → f n = none)
    (hclosed : ∀ entry ∈ aliases, lost entry.1 → lost entry.2)
    (hmem : (name, target) ∈ aliases) (htarget : lost target) :
    (name, target) ∈ f.unresolved aliases := by
  induction aliases generalizing f with
  | nil => cases hmem
  | cons first rest ih =>
    obtain ⟨hfirst, hrest⟩ := List.forall_mem_cons.mp hclosed
    rw [unresolved, List.mem_append]
    rcases List.mem_cons.mp hmem with rfl | hmem
    · refine Or.inl ?_
      rw [hnone _ htarget]
      exact List.mem_singleton.mpr rfl
    · exact Or.inr (ih (bindAlias_of_closed hnone hfirst) hrest hmem)

end Closed

end Sources

namespace ComponentMap

variable {m base : ComponentMap} {f : Sources} {name target : String}

theorem get?_share (m : ComponentMap) (name : String) (r : Renderer) (n : String) :
    (m.share name r).get? n = if n = name then some r else m.get? n := by
  split
  · rename_i hname
    rw [hname]
    exact Dict.get?_insert_self _ _ _
  · rename_i hname
    exact Dict.get?_insert_of_ne _ _ hname

theorem get?_bind (m : ComponentMap) (name : String) (render : Properties → Json) (n : String) :
    (m.bind name render).get? n = if n = name then some ⟨m.fresh, render⟩ else m.get? n :=
  get?_share m name ⟨m.fresh, render⟩ n

section Order

variable (hm : Dict.Ascending m.bindings)
include hm

theorem ascending_bindEchoes (names : List String) :
    Dict.Ascending (m.bindEchoes names).bindings := by
  induction names generalizing m with
  | nil => exact hm
  | cons name rest ih => exact ih (m := m.bind name (echo name)) (Dict.ascending_insert hm _ _)

theorem ascending_bindAlias (name target : String) :
    Dict.Ascending (m.bindAlias name target).bindings := by
  rw [bindAlias]
  split
  · exact Dict.ascending_insert hm _ _
  · exact hm

theorem ascending_bindAliases (aliases : Dict String) :
    Dict.Ascending (m.bindAliases aliases).bindings := by
  induction aliases generalizing m with
  | nil => exact hm
  | cons first rest ih => exact ih (ascending_bindAlias hm first.1 first.2)

end Order

/-- A map binds every name as another map binds its source, and all sources are bound there. -/
structure Follows (m base : ComponentMap) (f : Sources) : Prop where
  get? : ∀ name, m.get? name = (f name).bind base.get?
  bound : ∀ name s, f name = some s → ∃ r, base.get? s = some r

theorem Follows.contains (h : m.Follows base f) (name : String) :
    m.contains name = (f name).isSome := by
  have hget : m.contains name = (m.get? name).isSome := rfl
  rw [hget, h.get?]
  cases hsource : f name with
  | none => rfl
  | some s =>
    obtain ⟨r, hr⟩ := h.bound name s hsource
    rw [Option.bind_some, hr]
    rfl

theorem Follows.bindAlias (h : m.Follows base f) (name target : String) :
    (m.bindAlias name target).Follows base (f.bindAlias name target) := by
  cases hsource : f target with
  | none =>
    have htarget : m.get? target = none := by rw [h.get?, hsource, Option.bind_none]
    rw [ComponentMap.bindAlias, htarget, Sources.bindAlias_of_none hsource]
    exact h
  | some s =>
    obtain ⟨r, hr⟩ := h.bound target s hsource
    have htarget : m.get? target = some r := by rw [h.get?, hsource, Option.bind_some, hr]
    rw [ComponentMap.bindAlias, htarget]
    constructor
    · intro n
      rw [get?_share, Sources.bindAlias, hsource]
      split
      · exact hr.symm
      · exact h.get? n
    · exact Sources.forall_bindAlias h.bound name target

theorem Follows.bindAliases (h : m.Follows base f) (aliases : Dict String) :
    (m.bindAliases aliases).Follows base (f.bindAliases aliases) := by
  induction aliases generalizing m f with
  | nil => exact h
  | cons first rest ih => exact ih (h.bindAlias first.1 first.2)

/-- What is said of an alias whose target is not bound. -/
def unknownTarget (name target : String) : Notice :=
  .warning ("alias '" ++ name ++ "' points at unknown component '" ++ target ++ "'")

theorem Follows.aliasNotices (h : m.Follows base f) (aliases : Dict String) :
    m.aliasNotices aliases =
      (f.unresolved aliases).map (fun entry => unknownTarget entry.1 entry.2) := by
  induction aliases generalizing m f with
  | nil => rfl
  | cons first rest ih =>
    obtain ⟨name, target⟩ := first
    rw [ComponentMap.aliasNotices, Sources.unresolved, ih (h.bindAlias name target),
      h.contains, List.map_append]
    split <;> rfl

/-- A map binds each of some names to a renderer of its own that echoes the name, and nothing else. -/
structure Echoing (m : ComponentMap) (names : List String) : Prop where
  bound : ∀ name ∈ names, ∃ r, m.get? name = some r
  echoes : ∀ name r, m.get? name = some r → name ∈ names ∧ r.render = echo name
  below : ∀ name r, m.get? name = some r → r.number < m.fresh
  apart : ∀ name other r s, m.get? name = some r → m.get? other = some s →
    r.number = s.number → name = other

theorem echoing_empty : Echoing {} [] where
  bound := nofun
  echoes := nofun
  below := nofun
  apart := nofun

theorem Echoing.bind {names : List String} (h : m.Echoing names) (name : String) :
    (m.bind name (echo name)).Echoing (names ++ [name]) := by
  have hget := get?_bind m name (echo name)
  constructor
  · intro n hn
    rw [hget]
    split
    · exact ⟨_, rfl⟩
    · rename_i hne
      rcases List.mem_append.mp hn with hn | hn
      · exact h.bound n hn
      · exact absurd (List.mem_singleton.mp hn) hne
  · intro n r hr
    rw [hget] at hr
    split at hr
    · rename_i hn
      cases hr
      exact ⟨List.mem_append_right names (List.mem_singleton.mpr hn), hn ▸ rfl⟩
    · obtain ⟨hn, hrender⟩ := h.echoes n r hr
      exact ⟨List.mem_append_left [name] hn, hrender⟩
  · intro n r hr
    rw [hget] at hr
    split at hr
    · cases hr
      exact Nat.lt_succ_self m.fresh
    · exact Nat.lt_succ_of_lt (h.below n r hr)
  · intro n k r s hr hs hnumber
    rw [hget] at hr hs
    split at hr <;> split at hs
    · rename_i hn hk
      exact hn.trans hk.symm
    · cases hr
      exact absurd hnumber.symm (Nat.ne_of_lt (h.below k s hs))
    · cases hs
      exact absurd hnumber (Nat.ne_of_lt (h.below n r hr))
    · exact h.apart n k r s hr hs hnumber

theorem Echoing.bindEchoes {names : List String} (h : m.Echoing names) (more : List String) :
    (m.bindEchoes more).Echoing (names ++ more) := by
  induction more generalizing m names with
  | nil => rwa [List.append_nil]
  | cons name rest ih =>
    rw [List.append_cons]
    exact ih (h.bind name)

theorem echo_injective : Function.Injective echo := by
  intro a b h
  have hempty := congrFun h []
  simp only [echo, Json.obj.injEq, List.cons.injEq, Prod.mk.injEq, Json.str.injEq] at hempty
  exact hempty.1.2

end ComponentMap

namespace Config

variable {c other : Config} {name target : String} {r : Renderer}

/-- A built-in or configured component. -/
def IsComponent (c : Config) (name : String) : Prop :=
  name ∈ ComponentMap.builtInNames ++ c.components

instance (c : Config) (name : String) : Decidable (c.IsComponent name) :=
  inferInstanceAs (Decidable (name ∈ ComponentMap.builtInNames ++ c.components))

/-- The target of an alias, the target of that one, and so on. -/
def Leads (c : Config) : String → String → Prop :=
  Relation.TransGen (fun name target => Dict.get? c.aliases name = some target)

/-- Every component stands for itself, before aliases. -/
def ownSources (c : Config) : Sources := fun name => if c.IsComponent name then some name else none

def sources (c : Config) : Sources := c.ownSources.bindAliases c.aliases

theorem ownSources_of_isComponent (h : c.IsComponent name) : c.ownSources name = some name :=
  if_pos h

theorem ownSources_of_not (h : ¬c.IsComponent name) : c.ownSources name = none := if_neg h

theorem ownSources_eq_some {s : String} (h : c.ownSources name = some s) :
    c.IsComponent name ∧ name = s := by
  unfold ownSources at h
  split at h
  · exact ⟨‹_›, Option.some.inj h⟩
  · cases h

theorem sources_congr (haliases : c.aliases = other.aliases)
    (hcomponents : ∀ name, c.IsComponent name ↔ other.IsComponent name) :
    c.sources = other.sources := by
  have hown : c.ownSources = other.ownSources := by
    funext name
    simp only [ownSources, hcomponents name]
  rw [sources, sources, hown, haliases]

/-- Every source is a component. -/
theorem isComponent_of_sources {s : String} (h : c.sources name = some s) : c.IsComponent s := by
  refine Sources.forall_bindAliases (fun n t hn => ?_) c.aliases name s h
  obtain ⟨hcomponent, rfl⟩ := ownSources_eq_some hn
  exact hcomponent

theorem echoing_echoes (c : Config) : c.echoes.Echoing (ComponentMap.builtInNames ++ c.components) :=
  ComponentMap.echoing_empty.bindEchoes _

/-- Before aliases a map binds the components, each to itself. -/
theorem follows_echoes (c : Config) : c.echoes.Follows c.echoes c.ownSources where
  get? name := by
    by_cases hcomponent : c.IsComponent name
    · rw [ownSources_of_isComponent hcomponent, Option.bind_some]
    · rw [ownSources_of_not hcomponent, Option.bind_none]
      refine Option.eq_none_iff_forall_ne_some.mpr (fun r hr => ?_)
      exact hcomponent (c.echoing_echoes.echoes name r hr).1
  bound name s h := by
    obtain ⟨hcomponent, rfl⟩ := ownSources_eq_some h
    exact c.echoing_echoes.bound name hcomponent

theorem follows_componentMap (c : Config) : c.componentMap.Follows c.echoes c.sources :=
  c.follows_echoes.bindAliases c.aliases

/-- Every name is bound to the renderer that its source has of its own. -/
theorem get?_componentMap_of_source {s : String} (h : c.sources name = some s) :
    ∃ r, c.componentMap.get? name = some r ∧ c.echoes.get? s = some r ∧
      r.render = ComponentMap.echo s := by
  obtain ⟨r, hr⟩ := c.follows_componentMap.bound name s h
  refine ⟨r, ?_, hr, (c.echoing_echoes.echoes s r hr).2⟩
  rw [c.follows_componentMap.get?, h, Option.bind_some, hr]

theorem exists_source (h : c.componentMap.get? name = some r) : ∃ s, c.sources name = some s ∧
    r.render = ComponentMap.echo s := by
  rw [c.follows_componentMap.get?] at h
  obtain ⟨s, hs, hr⟩ := Option.bind_eq_some_iff.mp h
  exact ⟨s, hs, (c.echoing_echoes.echoes s r hr).2⟩

theorem render_componentMap (c : Config) (name : String) :
    (c.componentMap.get? name).map Renderer.render = (c.sources name).map ComponentMap.echo := by
  cases hsource : c.sources name with
  | none => rw [c.follows_componentMap.get?, hsource]; rfl
  | some s =>
    obtain ⟨r, hr, _, hrender⟩ := get?_componentMap_of_source hsource
    rw [hr, Option.map_some, Option.map_some, hrender]

/-- Two names share a renderer if they have one source. -/
theorem shared?_componentMap (c : Config) (a b : String) : c.componentMap.shared? a b =
    (c.sources a).bind (fun s => (c.sources b).map (fun t => s == t)) := by
  rw [ComponentMap.shared?]
  cases ha : c.sources a with
  | none => rw [c.follows_componentMap.get? a, ha]; rfl
  | some s =>
    obtain ⟨r, hr, hown, _⟩ := get?_componentMap_of_source ha
    cases hb : c.sources b with
    | none => rw [hr, c.follows_componentMap.get? b, hb]; rfl
    | some t =>
      obtain ⟨r', hr', hown', _⟩ := get?_componentMap_of_source hb
      have hiff : r.number = r'.number ↔ s = t := by
        constructor
        · exact c.echoing_echoes.apart s t r r' hown hown'
        · rintro rfl
          rw [Option.some.inj (hown.symm.trans hown')]
      rw [hr, hr']
      simp only [Option.bind_eq_bind, Option.bind_some, Option.map_some, Option.some.injEq]
      exact decide_eq_decide.mpr hiff

theorem componentNotices_eq (c : Config) : c.componentNotices =
    (c.ownSources.unresolved c.aliases).map
      (fun entry => ComponentMap.unknownTarget entry.1 entry.2) :=
  c.follows_echoes.aliasNotices c.aliases

theorem sources_of_not_alias (h : name ∉ Dict.keys c.aliases) :
    c.sources name = c.ownSources name :=
  Sources.bindAliases_of_not_mem h

theorem sources_of_target (h : Dict.Ascending c.aliases)
    (hname : Dict.get? c.aliases name = some target) (hcomponent : c.IsComponent target)
    (htarget : target ∉ Dict.keys c.aliases) : c.sources name = some target :=
  Sources.bindAliases_of_get? h.nodup_keys hname htarget (ownSources_of_isComponent hcomponent)

theorem exists_bound (h : c.IsComponent name) : ∃ r, c.componentMap.get? name = some r := by
  have hsome : (c.sources name).isSome = true :=
    Sources.isSome_bindAliases (by rw [ownSources_of_isComponent h]; rfl) c.aliases
  obtain ⟨s, hs⟩ := Option.isSome_iff_exists.mp hsome
  obtain ⟨r, hr, _⟩ := get?_componentMap_of_source hs
  exact ⟨r, hr⟩

/-- An alias that never leads to a component keeps what it is bound to, and is reported. -/
theorem kept_and_reported (h : Dict.Ascending c.aliases)
    (hname : Dict.get? c.aliases name = some target)
    (hlost : ∀ t, c.Leads name t → ¬c.IsComponent t) :
    c.componentMap.get? name = c.echoes.get? name ∧
      ComponentMap.unknownTarget name target ∈ c.componentNotices := by
  have hnone : ∀ t, c.Leads name t → c.ownSources t = none :=
    fun t ht => ownSources_of_not (hlost t ht)
  have hget : ∀ entry ∈ c.aliases, Dict.get? c.aliases entry.1 = some entry.2 :=
    fun entry hentry => Dict.get?_of_mem h.nodup_keys hentry
  have hclosed : ∀ entry ∈ c.aliases, c.Leads name entry.1 → c.Leads name entry.2 :=
    fun entry hentry ht => ht.tail (hget entry hentry)
  have hself : ∀ entry ∈ c.aliases, entry.1 = name → c.Leads name entry.2 :=
    fun entry hentry heq => .single (heq ▸ hget entry hentry)
  constructor
  · rw [c.follows_componentMap.get?, c.follows_echoes.get?, sources,
      Sources.bindAliases_self_of_closed hnone hclosed hself]
  · rw [componentNotices_eq]
    have hmem : (name, target) ∈ c.ownSources.unresolved c.aliases :=
      Sources.mem_unresolved_of_closed hnone hclosed (Dict.mem_of_get? hname) (.single hname)
    exact List.mem_map.mpr ⟨(name, target), hmem, rfl⟩

theorem ascending_componentMap (c : Config) : Dict.Ascending c.componentMap.bindings :=
  ComponentMap.ascending_bindAliases
    (ComponentMap.ascending_bindEchoes (m := {}) .nil _) c.aliases

/-- What the component map of a configuration binds: the components and some of the aliases, all to
renderers that echo a component. A component that is no alias echoes itself; an alias of such a
component shares its renderer; an alias that never leads to a component keeps what it is bound to, if
it is itself a component, and is reported. The order and the number of the configured components do
not matter. -/
theorem componentMap_binds (c : Config) (h : Dict.Ascending c.aliases) :
    (∀ name, c.IsComponent name → ∃ r, c.componentMap.get? name = some r) ∧
    (∀ name r, c.componentMap.get? name = some r →
      (c.IsComponent name ∨ name ∈ Dict.keys c.aliases) ∧
      (∃ s, c.IsComponent s ∧ r.render = ComponentMap.echo s) ∧
      (∀ s, r.render = ComponentMap.echo s → c.IsComponent s)) ∧
    (∀ name, c.IsComponent name → name ∉ Dict.keys c.aliases →
      ∃ r, c.componentMap.get? name = some r ∧ r.render = ComponentMap.echo name) ∧
    (∀ name target, Dict.get? c.aliases name = some target →
      (c.IsComponent target → target ∉ Dict.keys c.aliases →
        ∃ r, c.componentMap.get? name = some r ∧ c.componentMap.get? target = some r ∧
          r.render = ComponentMap.echo target) ∧
      ((∀ t, c.Leads name t → ¬c.IsComponent t) →
        (¬c.IsComponent name → c.componentMap.get? name = none) ∧
        (c.IsComponent name → ∃ r, c.componentMap.get? name = some r ∧
          c.echoes.get? name = some r ∧ r.render = ComponentMap.echo name) ∧
        ComponentMap.unknownTarget name target ∈ c.componentNotices)) ∧
    (∀ other : Config, other.aliases = c.aliases →
      (∀ name, name ∈ other.components ↔ name ∈ c.components) →
      Dict.mapValues Renderer.render other.componentMap.bindings =
          Dict.mapValues Renderer.render c.componentMap.bindings ∧
        ∀ a b, other.componentMap.shared? a b = c.componentMap.shared? a b) := by
  refine ⟨fun _ => exists_bound, ?bound, ?component, ?target, ?rearranged⟩
  case bound =>
    intro name r hr
    obtain ⟨s, hs, hrender⟩ := exists_source hr
    refine ⟨?_, ⟨s, isComponent_of_sources hs, hrender⟩, fun t ht => ?_⟩
    · by_cases halias : name ∈ Dict.keys c.aliases
      · exact Or.inr halias
      · rw [sources_of_not_alias halias] at hs
        exact Or.inl (ownSources_eq_some hs).1
    · rw [ComponentMap.echo_injective (ht.symm.trans hrender)]
      exact isComponent_of_sources hs
  case component =>
    intro name hcomponent halias
    have hsource : c.sources name = some name :=
      (sources_of_not_alias halias).trans (ownSources_of_isComponent hcomponent)
    obtain ⟨r, hr, _, hrender⟩ := get?_componentMap_of_source hsource
    exact ⟨r, hr, hrender⟩
  case target =>
    intro name target hname
    constructor
    · intro hcomponent htarget
      have hself : c.sources target = some target :=
        (sources_of_not_alias htarget).trans (ownSources_of_isComponent hcomponent)
      obtain ⟨r, hr, hown, hrender⟩ :=
        get?_componentMap_of_source (sources_of_target h hname hcomponent htarget)
      obtain ⟨r', hr', hown', _⟩ := get?_componentMap_of_source hself
      refine ⟨r, hr, ?_, hrender⟩
      rw [hr', ← hown', hown]
    · intro hlost
      obtain ⟨hkept, hreported⟩ := kept_and_reported h hname hlost
      refine ⟨fun hcomponent => ?_, fun hcomponent => ?_, hreported⟩
      · rw [hkept, c.follows_echoes.get?, ownSources_of_not hcomponent, Option.bind_none]
      · obtain ⟨r, hr⟩ := c.echoing_echoes.bound name hcomponent
        exact ⟨r, hkept.trans hr, hr, (c.echoing_echoes.echoes name r hr).2⟩
  case rearranged =>
    intro other haliases hcomponents
    have hsources : other.sources = c.sources := by
      refine sources_congr haliases (fun name => ?_)
      rw [IsComponent, IsComponent, List.mem_append, List.mem_append, hcomponents]
    constructor
    · apply Dict.ext_get? (Dict.ascending_mapValues _ other.ascending_componentMap)
        (Dict.ascending_mapValues _ c.ascending_componentMap)
      intro name
      rw [Dict.get?_mapValues, Dict.get?_mapValues]
      exact (other.render_componentMap name).trans (hsources ▸ (c.render_componentMap name).symm)
    · intro a b
      rw [shared?_componentMap, shared?_componentMap, hsources]

/-- Names that an alias leads to lie among any that hold its target and the targets of their own. -/
theorem Leads.mem {names : List String} (h : c.Leads name target)
    (hnames : ∀ entry ∈ c.aliases, entry.1 = name ∨ entry.1 ∈ names → entry.2 ∈ names) :
    target ∈ names := by
  induction h with
  | single hstep => exact hnames _ (Dict.mem_of_get? hstep) (Or.inl rfl)
  | tail _ hstep ih => exact hnames _ (Dict.mem_of_get? hstep) (Or.inr ih)

/-- An alias of a component, two aliases of each other, and a component as an alias of nothing. -/
def people : Config where
  components := ["UserList"]
  aliases := [("Left", "Right"), ("People", "UserList"), ("Right", "Left"), ("text", "Nope")]

theorem people_componentMap :
    Dict.Ascending people.aliases ∧
      (∃ r, people.componentMap.get? "People" = some r ∧
        people.componentMap.get? "UserList" = some r ∧ r.render = ComponentMap.echo "UserList") ∧
      (people.componentMap.get? "Left" = none ∧
        ComponentMap.unknownTarget "Left" "Right" ∈ people.componentNotices) ∧
      (∃ r, people.componentMap.get? "text" = some r ∧ r.render = ComponentMap.echo "text") ∧
      ComponentMap.unknownTarget "text" "Nope" ∈ people.componentNotices := by
  have hascending : Dict.Ascending people.aliases := by
    unfold Dict.Ascending
    decide
  have hcycle : ∀ t, people.Leads "Left" t → ¬people.IsComponent t := by
    intro t ht
    have hnames : ∀ n ∈ ["Left", "Right"], ¬people.IsComponent n := by decide
    exact hnames t (ht.mem (by decide))
  have hnowhere : ∀ t, people.Leads "text" t → ¬people.IsComponent t := by
    intro t ht
    have hnames : ∀ n ∈ ["Nope"], ¬people.IsComponent n := by decide
    exact hnames t (ht.mem (by decide))
  obtain ⟨_, _, _, htarget, _⟩ := componentMap_binds people hascending
  have hpeople := (htarget "People" "UserList" rfl).1 (by decide) (by decide)
  obtain ⟨hleft, _, hleftReported⟩ := (htarget "Left" "Right" rfl).2 hcycle
  obtain ⟨_, htext, htextReported⟩ := (htarget "text" "Nope" rfl).2 hnowhere
  obtain ⟨r, hr, _, hrender⟩ := htext (by decide)
  exact ⟨hascending, hpeople, ⟨hleft (by decide), hleftReported⟩, ⟨r, hr, hrender⟩, htextReported⟩

end Config

end UiSchema
