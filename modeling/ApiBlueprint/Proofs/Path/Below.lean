import ApiBlueprint.Proofs.Path.Rise

/-!
Paths that lead to a place below the folder they are seen from. A relative path that is joined to such a
path and then normalized leads there again exactly if it climbs above the folder an even number of times,
and the parent of such a path leads there too.
-/

namespace ApiBlueprint

open OsText (slash point)

namespace Component

variable {components behind : List Component}

/-- What leads up behind the components takes their names away first. -/
theorem rise_append : rise (components ++ behind) =
    rise components + (rise behind - (descent components).length) := by
  induction components with
  | nil => simp [rise, descent]
  | cons component rest ih =>
    cases component with
    | root => exact ih
    | current => exact ih
    | parent =>
      change rise (rest ++ behind) + 1 = rise rest + 1 + (rise behind - (descent rest).length)
      omega
    | name text =>
      change rise (rest ++ behind) - 1 = rise rest - 1 + _
      rw [descent]
      split
      · rw [List.length_cons]
        omega
      · omega

theorem rise_eq_zero (noParent : .parent ∉ components) : rise components = 0 :=
  Nat.eq_zero_of_le_zero ((rise_le_count components).trans_eq (List.count_eq_zero.mpr noParent))

theorem rise_filter_current (components : List Component) :
    rise (components.filter (· ≠ .current)) = rise components := by
  induction components with
  | nil => rfl
  | cons component rest ih => cases component <;> simp_all [rise]

theorem descent_filter_current (components : List Component) :
    descent (components.filter (· ≠ .current)) = descent components := by
  induction components with
  | nil => rfl
  | cons component rest ih =>
    have rises := rise_filter_current rest
    cases component <;> simp_all [descent]

theorem parent_mem_stacked {up : Nat} {names : List OsText} : .parent ∈ stacked up names ↔ up ≠ 0 := by
  simp [stacked]

end Component

namespace Path

structure IsBelow (path : Path) : Prop where
  relative : path.isAbsolute = false
  noParent : .parent ∉ path.components

instance (path : Path) : Decidable path.IsBelow :=
  decidable_of_iff (path.isAbsolute = false ∧ .parent ∉ path.components)
    ⟨fun ⟨relative, noParent⟩ => ⟨relative, noParent⟩, fun below => ⟨below.relative, below.noParent⟩⟩

theorem root_mem_components {path : Path} : .root ∈ path.components ↔ path.isAbsolute = true := by
  cases absolute : path.isAbsolute with
  | true => simp [components_of_absolute absolute]
  | false => simp [root_not_mem_components absolute]

theorem filter_components (path : Path) : path.components.filter (· ≠ .current) =
    (if path.isAbsolute then [.root] else []) ++
      (path.pieces.map Component.ofPiece).filter (· ≠ .current) := by
  cases absolute : path.isAbsolute with
  | true =>
    rw [components_of_absolute absolute, List.filter_cons_of_pos (by decide), List.filter_filter]
    simp
  | false =>
    cases split : path.pieces with
    | nil =>
      unfold pieces at split
      simp only [components, absolute, split]
      rfl
    | cons first rest =>
      rw [components_of_relative absolute split, List.map_cons, List.filter_cons, List.filter_cons,
        List.filter_filter]
      simp

theorem rise_eq_pieces (path : Path) : path.rise = Component.rise (path.pieces.map Component.ofPiece) := by
  rw [rise, ← Component.rise_filter_current, filter_components]
  cases path.isAbsolute <;> exact Component.rise_filter_current _

theorem descent_eq_pieces (path : Path) :
    path.descent = Component.descent (path.pieces.map Component.ofPiece) := by
  rw [descent, ← Component.descent_filter_current, filter_components]
  cases path.isAbsolute <;> exact Component.descent_filter_current _

theorem parent_mem_components {path : Path} :
    .parent ∈ path.components ↔ [point, point] ∈ path.bytes.splitOn slash := by
  have kept : .parent ∈ path.components ↔ .parent ∈ path.components.filter (· ≠ .current) := by
    simp [List.mem_filter]
  rw [kept, filter_components]
  cases path.isAbsolute <;> simp [pieces, List.mem_filter, Component.ofPiece_eq_parent]

theorem pieces_join {base path : Path} (relative : path.isAbsolute = false) :
    (base.join path).pieces = base.pieces ++ path.pieces := by
  have cut (before behind : OsText) : (⟨before ++ slash :: behind⟩ : Path).pieces =
      (⟨before⟩ : Path).pieces ++ (⟨behind⟩ : Path).pieces := by
    rw [pieces, List.splitOn_append_cons_self, List.filter_append]
    rfl
  obtain ⟨base⟩ := base
  unfold join
  rw [if_neg (by simp [relative])]
  split
  · rename_i bare
    rcases List.eq_nil_or_concat' base with rfl | ⟨front, last, rfl⟩
    · rfl
    · obtain rfl : last = slash := by simpa [isEmpty] using bare
      have ends : (⟨front ++ [slash]⟩ : Path).pieces = (⟨front⟩ : Path).pieces :=
        (cut front []).trans (List.append_nil _)
      rw [List.append_assoc, ends]
      exact cut front path.bytes
  · exact cut base path.bytes

theorem isAbsolute_join {base path : Path} (absolute : base.isAbsolute = true) :
    (base.join path).isAbsolute = true := by
  obtain ⟨rest, starts⟩ : ∃ rest, base.bytes = slash :: rest :=
    List.head?_eq_some_iff.mp (by simpa [isAbsolute] using absolute)
  unfold join
  split
  · assumption
  · split <;> simp [isAbsolute, starts]

theorem isAbsolute_join_relative {base path : Path} (relative : base.isAbsolute = false)
    (relative' : path.isAbsolute = false) : (base.join path).isAbsolute = false := by
  obtain ⟨base⟩ := base
  unfold join
  rw [if_neg (by simp [relative'])]
  cases base with
  | nil => exact relative'
  | cons c rest => split <;> exact relative

theorem IsBelow.rise_eq_zero {path : Path} (below : path.IsBelow) : path.rise = 0 :=
  Component.rise_eq_zero below.noParent

theorem IsBelow.rise_join {base path : Path} (below : base.IsBelow) (relative : path.isAbsolute = false) :
    (base.join path).rise = path.rise - base.descent.length := by
  rw [rise_eq_pieces, pieces_join relative, List.map_append, Component.rise_append, ← rise_eq_pieces,
    ← rise_eq_pieces, ← descent_eq_pieces, below.rise_eq_zero, Nat.zero_add]

theorem isBelow_normalize_iff {path : Path} (relative : path.isAbsolute = false) :
    path.normalize.IsBelow ↔ path.rise % 2 = 0 := by
  have components := components_normalize_relative relative
  have noParent : .parent ∉ path.normalize.components ↔ path.rise % 2 = 0 := by
    rw [components, Component.parent_mem_stacked, not_not]
  have noRoot : path.normalize.isAbsolute = false := by
    rw [← Bool.not_eq_true, ← root_mem_components, components]
    simp [Component.stacked]
  exact ⟨fun below => noParent.mp below.noParent, fun even => ⟨noRoot, noParent.mpr even⟩⟩

/-- The root stays at the bottom of the stack. -/
theorem getLast?_climb {above : List Component} (rooted : above.getLast? = some .root)
    (component : Component) : (climb above component).getLast? = some .root := by
  cases component with
  | root => rfl
  | current => exact rooted
  | name text =>
    rw [climb, List.getLast?_cons, rooted]
    rfl
  | parent =>
    cases above with
    | nil => contradiction
    | cons top rest =>
      cases rest with
      | nil =>
        obtain rfl : top = .root := by simpa using rooted
        rfl
      | cons next rest =>
        rw [List.getLast?_cons_cons] at rooted
        cases top <;> exact rooted

theorem isAbsolute_normalize {path : Path} (absolute : path.isAbsolute = true) :
    path.normalize.isAbsolute = true := by
  have rooted (components above : List Component) (rooted : above.getLast? = some .root) :
      (components.foldl climb above).getLast? = some .root := by
    induction components generalizing above with
    | nil => exact rooted
    | cons component rest ih => exact ih _ (getLast?_climb rooted component)
  rw [← root_mem_components, components_normalize, List.mem_reverse]
  apply List.mem_of_getLast?
  rw [components_of_absolute absolute]
  exact rooted _ [.root] rfl

/-- A path that begins with a piece of another path and goes on with pieces of it. -/
theorem IsBelow.of_pieces {path : Path} (below : path.IsBelow) {first : OsText} {kept rest : List OsText}
    (split : path.bytes.splitOn slash = first :: rest) (nonempty : first ≠ []) (subset : kept ⊆ rest) :
    IsBelow ⟨Text.joinWith [slash] (first :: kept)⟩ := by
  have inside : first :: kept ⊆ path.bytes.splitOn slash := by
    rw [split]
    exact List.cons_subset_cons first subset
  have noSlash : ∀ piece ∈ first :: kept, slash ∉ piece :=
    fun piece member => Text.not_mem_of_mem_splitOn (inside member)
  constructor
  · obtain ⟨c, more, rfl⟩ := List.exists_cons_of_ne_nil nonempty
    have other : c ≠ slash := fun same => noSlash _ List.mem_cons_self (by simp [same])
    cases kept <;> simp [isAbsolute, Text.joinWith, List.intercalate_cons_cons, other]
  · rw [parent_mem_components, Text.joinWith, List.splitOn_intercalate slash noSlash (List.cons_ne_nil _ _)]
    exact fun member => below.noParent (parent_mem_components.mpr (inside member))

theorem first_piece_ne_nil {path : Path} (relative : path.isAbsolute = false) {first : OsText}
    {rest : List OsText} (nonempty : path.components ≠ []) (split : path.bytes.splitOn slash = first :: rest) :
    first ≠ [] := by
  rintro rfl
  have spelled : [slash].intercalate ([] :: rest) = path.bytes := split ▸ List.intercalate_splitOn slash
  cases rest with
  | nil =>
    obtain rfl : path = ⟨[]⟩ := congrArg Path.mk spelled.symm
    exact nonempty rfl
  | cons next rest => simp [isAbsolute, ← spelled, List.intercalate_cons_cons] at relative

theorem IsBelow.parent {path above : Path} (below : path.IsBelow) (leads : path.parent? = some above) :
    above.IsBelow := by
  unfold parent? at leads
  split at leads
  · contradiction
  · contradiction
  · contradiction
  · rename_i last first rest notRoot ends split
    have nonempty : path.components ≠ [] := by
      intro empty
      rw [empty] at ends
      contradiction
    have begins := first_piece_ne_nil below.relative nonempty split
    split at leads
    · obtain rfl := Option.some.inj leads
      decide
    · rename_i dropped higher cut
      have within : higher ⊆ rest := by
        intro piece member
        have kept : piece ∈ rest.reverse.dropWhile isFiller := cut ▸ List.mem_cons_of_mem dropped member
        exact List.mem_reverse.mp (List.dropWhile_subset isFiller kept)
      split at leads
      · obtain rfl := Option.some.inj leads
        have single : Text.joinWith [slash] [first] = first := List.intercalate_singleton
        have shorter := below.of_pieces split begins (List.nil_subset rest)
        simpa [begins, single] using shorter
      · obtain rfl := Option.some.inj leads
        refine below.of_pieces split begins fun piece member => within ?_
        exact List.dropWhile_subset isFiller (List.mem_reverse.mp member)

end Path

end ApiBlueprint
