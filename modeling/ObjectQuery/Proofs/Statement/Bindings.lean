import Mathlib.Data.List.Perm.Subperm
import ObjectQuery.Proofs.Sql.Bound
import ObjectQuery.Proofs.Statement.Assignments

/-!
# What an update binds

Changes of one column are put one into the other: the value of the column so far stands in the next
value as often as that change mentions it, and binds what it binds each time. So the number of values
bound for a column is a fold of its own, in which each change multiplies by its mentions and adds its
operand.

Setting mentions the current value at most once, inside a document, while other operators mention it up
to five times. Keys of an object are distinct, so only a document can be changed by several keys of the
latter kind. If at most `r` keys compute on any one document, the SET list binds no more than `5 ^ r`
values for each key, and one for each column of a shape that is set. Without such an `r` there is no
bound that is linear in the number of keys: each increment inside a document triples what the column
binds.
-/

namespace ObjectQuery

namespace Write

variable {s : Schema} {root : Target} {className column : String} {q : Query} {n n' : Nat}
  {changes : List Change} {sets : Assignments} {document : List (String × Json)}

/-! ## What a column binds -/

namespace Change

/-- How often a change mentions the current value of its column. -/
def mentions (change : Change) : Nat := change.update.mentions change.type change.path

/-- How many values a change binds itself: those it binds where the current value binds none. -/
def own (change : Change) : Nat := ((change.apply .empty).toOption.map Sql.bound).getD 0

/-- How many values a column binds behind a change, if it has bound `n`. -/
def binds (n : Nat) (change : Change) : Nat := change.own + change.mentions * n

variable {change : Change} {current sql : Sql}

/-- What a change binds itself is what its update is known to bind. -/
theorem own_of_binds {own mentions : Nat} (h : Update.Binds change.apply own mentions) :
    change.own = own := by
  obtain ⟨sql, hsql, hbound⟩ := h .empty
  have hempty : Sql.empty.bound = 0 := rfl
  rw [Change.own, hsql]
  simpa [Except.toOption, hempty] using hbound

/-- A change binds one value of its own at most. -/
theorem own_le (change : Change) : change.own ≤ 1 := by
  cases h : change.apply .empty with
  | ok sql =>
    obtain ⟨own, hown, hbinds⟩ := Update.binds_apply h
    rwa [own_of_binds hbinds]
  | error e => simp [own, h, Except.toOption]

/-- The law of one change. -/
theorem bound_of_apply (h : change.apply current = .ok sql) :
    sql.bound = change.binds current.bound := by
  obtain ⟨own, -, hbinds⟩ := Update.binds_apply h
  obtain ⟨sql', hsql', hbound⟩ := hbinds current
  obtain rfl := Except.ok.inj (h.symm.trans hsql')
  rw [hbound, binds, own_of_binds hbinds]
  rfl

end Change

/-- The law of a column: what it binds is folded along its changes. -/
theorem bound_of_foldlM {start sql : Sql}
    (h : changes.foldlM (fun current change => change.apply current) start = .ok sql) :
    sql.bound = changes.foldl (fun n change => change.binds n) start.bound := by
  induction changes generalizing start with
  | nil =>
    obtain rfl := Result.pure_eq_ok.mp h
    rfl
  | cons change rest ih =>
    rw [List.foldlM_cons] at h
    obtain ⟨mid, hmid, hrest⟩ := Result.bind_eq_ok.mp h
    rw [List.foldl_cons, ← Change.bound_of_apply hmid]
    exact ih hrest

/-! ## Keys that change a column -/

/-- A key is a column, or leads into the document that the column holds. -/
def names (s : Schema) (className column : String) (entry : String × Json) : Bool :=
  (s.column className entry.1).toOption.any fun found => found.name == column

/-- A key names the column it resolves to, and no other. -/
theorem names_of_column {key : String} {raw : Json} {found : Column}
    (h : s.column className key = .ok found) :
    names s className column (key, raw) = (found.name == column) := by
  simp [names, h, Except.toOption]

/-- A key computes on a column: it names the column, with an operator that does not set. -/
def computes (s : Schema) (className column : String) (entry : String × Json) : Bool :=
  names s className column entry && (Update.decode entry.2).toOption.any fun u => u.op != .set

/-- The columns that a key assigns as a shape. -/
def spreadTo (s : Schema) (className key : String) : List String :=
  match s.column className key with
  | .ok found => if found.type.isShape then (found.type.leaves found.name).map (·.1) else []
  | .error _ => []

/-- The columns that the keys of a document assign as shapes. -/
def shapeColumns (s : Schema) (className : String) (document : List (String × Json)) : List String :=
  (document.flatMap fun entry => spreadTo s className entry.1).eraseDups

namespace Change

/-- A change that sets mentions the current value once at most, another change five times at most. -/
theorem mentions_le (change : Change) :
    change.mentions ≤ if change.update.op = .set then 1 else 5 := by
  obtain ⟨name, ty, path, op, v⟩ := change
  by_cases hset : op = .set
  · subst hset
    rw [if_pos rfl]
    exact (Update.mentions_set v ty path).trans (by split <;> decide)
  · rw [if_neg hset]
    exact Update.mentions_le ⟨op, v⟩ ty path

/-- Any change multiplies what has been bound before by five at most. -/
theorem binds_le (change : Change) (n : Nat) : change.binds n ≤ 1 + 5 * n :=
  Nat.add_le_add change.own_le
    (Nat.mul_le_mul_right n (Update.mentions_le change.update change.type change.path))

/-- Setting keeps what has been bound before at most once. -/
theorem binds_set_le {name : String} {ty : FieldType} {path : List String} {v : Json} (n : Nat) :
    (⟨name, ty, path, ⟨.set, v⟩⟩ : Change).binds n ≤ 1 + n := by
  have hkept := Nat.mul_le_mul_right n (mentions_le ⟨name, ty, path, ⟨.set, v⟩⟩)
  rw [if_pos rfl, Nat.one_mul] at hkept
  exact Nat.add_le_add (own_le _) hkept

/-- Setting a column as a whole keeps nothing of what has been bound before. -/
theorem binds_whole_le {name : String} {ty : FieldType} {v : Json} (n : Nat) :
    (⟨name, ty, [], ⟨.set, v⟩⟩ : Change).binds n ≤ 1 := by
  have hmentions : (⟨.set, v⟩ : Update).mentions ty [] = 0 :=
    Nat.eq_zero_of_le_zero (Update.mentions_set v ty [])
  rw [binds, Change.mentions, hmentions, Nat.zero_mul]
  exact own_le _

end Change

/-- A column among the leaves of a shape binds what it is set to, another what it has bound. -/
theorem binds_of_spread {shape : String} {value : Json} {leaves : List (String × FieldType)}
    (h : List.Forall₂ (Change.SetsLeaf shape value) leaves changes) (column : String) (n : Nat) :
    (changes.filter (·.column = column)).foldl (fun n change => change.binds n) n ≤
      if column ∈ leaves.map (·.1) then 1 else n := by
  induction h generalizing n with
  | nil => simp
  | @cons leaf change leaves changes hleaf _ ih =>
    obtain ⟨rest, -, rfl⟩ := hleaf
    simp only [List.map_cons, List.mem_cons]
    by_cases hcolumn : leaf.1 = column
    · rw [List.filter_cons_of_pos (by simpa using hcolumn), List.foldl_cons, if_pos (.inl hcolumn.symm)]
      refine (ih _).trans ?_
      split
      · exact Nat.le_refl 1
      · exact Change.binds_whole_le n
    · rw [List.filter_cons_of_neg (by simpa using hcolumn),
        if_congr (or_iff_right (Ne.symm hcolumn)) rfl rfl]
      exact ih n

/-- A key that names a column changes it once, and no other column. -/
theorem binds_of_names {key name : String} {raw : Json} {ty : FieldType} {path : ColumnPath}
    {place : List String} {u : Update} (hu : Update.decode raw = .ok u)
    (hfound : s.column className key = .ok ⟨name, ty, path⟩) (column : String) (n : Nat) :
    ([(⟨name, ty, place, u⟩ : Change)].filter (·.column = column)).foldl
      (fun n change => change.binds n) n ≤
      if computes s className column (key, raw) then 1 + 5 * n
      else if names s className column (key, raw) then 1 + n else n := by
  have hnames : names s className column (key, raw) = (name == column) := names_of_column hfound
  have hcomputes : computes s className column (key, raw) = (name == column && u.op != .set) := by
    simp [computes, hnames, hu, Except.toOption]
  rw [hnames, hcomputes]
  by_cases hcolumn : name = column
  · subst hcolumn
    obtain ⟨op, operand⟩ := u
    by_cases hset : op = .set
    · subst hset
      simpa using Change.binds_set_le n
    · simpa [hset] using Change.binds_le _ n
  · rw [List.filter_cons_of_neg (by simpa using hcolumn)]
    simp [hcolumn]

/-- The step: what a key makes of the number of values that a column binds. -/
theorem binds_of_asks {entry : String × Json} (h : Asks s className entry changes) (column : String)
    (n : Nat) :
    (changes.filter (·.column = column)).foldl (fun n change => change.binds n) n ≤
      if computes s className column entry then 1 + 5 * n
      else if names s className column entry then 1 + n
      else if column ∈ spreadTo s className entry.1 then max n 1 else n := by
  cases h with
  | whole hu hfound | inside hu hfound =>
    refine (binds_of_names hu hfound column n).trans ?_
    grind
  | @spread key name raw value ty _ hu hfound hshape hleaves =>
    refine (binds_of_spread hleaves column n).trans ?_
    have hspread : spreadTo s className key = (ty.leaves name).map (·.1) := by
      simp [spreadTo, hfound, hshape]
    have hset : computes s className column (key, raw) = false := by
      simp [computes, hu, Except.toOption]
    rw [hset, hspread]
    grind

/-! ## Keys of a document -/

/-- What is within the bound stays within it behind a key that computes. -/
theorem within_computes {n r d k : Nat} (hn : n ≤ Nat.pow 5 r * d + k) (hk : k ≤ 1) :
    1 + 5 * n ≤ Nat.pow 5 (r + 1) * (d + 1) + k := by
  have hpos : 0 < Nat.pow 5 r := Nat.pow_pos (by decide)
  have hsucc : Nat.pow 5 (r + 1) = Nat.pow 5 r * 5 := rfl
  have hgrown : Nat.pow 5 (r + 1) * (d + 1) = 5 * (Nat.pow 5 r * d) + 5 * Nat.pow 5 r := by
    rw [hsucc, Nat.mul_add_one, Nat.mul_right_comm, Nat.mul_comm _ 5, Nat.mul_comm _ 5]
  omega

/-- What is within the bound stays within it behind a key that sets. -/
theorem within_names {n r d k : Nat} (hn : n ≤ Nat.pow 5 r * d + k) :
    1 + n ≤ Nat.pow 5 r * (d + 1) + k := by
  have hpos : 0 < Nat.pow 5 r := Nat.pow_pos (by decide)
  rw [Nat.mul_add_one]
  omega

/-- The run: each key that names a column adds a value, each that computes on it multiplies by five. -/
theorem binds_of_document {changes : List (List Change)} {n r d k : Nat}
    (hasked : List.Forall₂ (Asks s className) document changes)
    (hspread : ∀ entry ∈ document, column ∈ spreadTo s className entry.1 → 1 ≤ k) (hk : k ≤ 1)
    (hn : n ≤ Nat.pow 5 r * d + k) :
    (changes.flatten.filter (·.column = column)).foldl (fun n change => change.binds n) n ≤
      Nat.pow 5 (r + document.countP (computes s className column)) *
        (d + document.countP (names s className column)) + k := by
  induction hasked generalizing n r d with
  | nil => simpa using hn
  | @cons entry own rest changes hentry _ ih =>
    obtain ⟨hhere, hrest⟩ := List.forall_mem_cons.mp hspread
    rw [List.flatten_cons, List.filter_append, List.foldl_append]
    have hown := binds_of_asks hentry column n
    by_cases hcomputes : computes s className column entry = true
    · have hnames : names s className column entry = true := (Bool.and_eq_true_iff.mp hcomputes).1
      rw [if_pos hcomputes] at hown
      rw [List.countP_cons_of_pos hcomputes, List.countP_cons_of_pos hnames]
      have hall := ih hrest (hown.trans (within_computes hn hk))
      rwa [Nat.add_assoc r, Nat.add_comm 1, Nat.add_assoc d, Nat.add_comm 1] at hall
    rw [if_neg hcomputes] at hown
    rw [List.countP_cons_of_neg hcomputes]
    by_cases hnames : names s className column entry = true
    · rw [if_pos hnames] at hown
      rw [List.countP_cons_of_pos hnames]
      have hall := ih hrest (hown.trans (within_names hn))
      rwa [Nat.add_assoc d, Nat.add_comm 1] at hall
    · rw [if_neg hnames] at hown
      rw [List.countP_cons_of_neg hnames]
      refine ih hrest (hown.trans ?_)
      split
      next hcolumn =>
        have hone := hhere hcolumn
        omega
      next => exact hn

/-! ## The whole SET list -/

/-- A key names no more than one column. -/
theorem names_unique {other : String} {entry : String × Json}
    (h : names s className column entry = true) (hother : names s className other entry = true) :
    other = column := by
  unfold names at h hother
  cases hfound : s.column className entry.1 with
  | error e => simp [hfound, Except.toOption] at h
  | ok found =>
    simp only [hfound, Except.toOption, Option.any_some, beq_iff_eq] at h hother
    exact hother.symm.trans h

/-- The keys that name a column are those of another column, and those among the rest. -/
theorem length_eq_names (s : Schema) (className column : String) (document : List (String × Json)) :
    document.length = document.countP (names s className column) +
      (document.filter fun entry => !names s className column entry).length := by
  rw [← List.countP_eq_length_filter]
  simpa using List.length_eq_countP_add_countP (names s className column) (l := document)

/-- The keys of a column are left by those of another. -/
theorem countP_names_of_ne {other : String} (hne : other ≠ column) :
    (document.filter fun entry => !names s className column entry).countP
      (names s className other) = document.countP (names s className other) := by
  rw [List.countP_filter]
  refine List.countP_congr fun entry _ => ?_
  rw [Bool.and_eq_true, and_iff_left_iff_imp, Bool.not_eq_true']
  exact fun hother => Bool.eq_false_iff.mpr fun hnames => hne (names_unique hnames hother)

/-- One place for an item among some, and those of the others, are no more than there are. -/
theorem place_add_length_le (column : String) (others : List String) :
    (if column ∈ others then 1 else 0) + (others.filter (· != column)).length ≤ others.length := by
  split
  next hmem =>
    have hlt : (others.filter (· != column)).length < others.length :=
      List.length_filter_lt_length_iff_exists.mpr ⟨column, hmem, by simp⟩
    omega
  next =>
    rw [Nat.zero_add]
    exact List.length_filter_le _ _

/--
If each column binds `factor` values for each key that names it, and one more if it is among some
others, then all columns together bind `factor` values for each key, and one for each of the others.
-/
theorem bound_join_le {factor : Nat} {separator : String} {others : List String}
    (hsets : (sets.map (·.1)).Nodup)
    (h : ∀ set ∈ sets, set.2.bound ≤ factor * document.countP (names s className set.1) +
      if set.1 ∈ others then 1 else 0) :
    (Sql.join (sets.map fun set => .seq [.ident set.1, " = ", set.2]) separator).bound ≤
      factor * document.length + others.length := by
  induction sets generalizing document others with
  | nil => exact Nat.zero_le _
  | cons set rest ih =>
    obtain ⟨hnew, hrest⟩ := List.nodup_cons.mp hsets
    obtain ⟨hset, hsets⟩ := List.forall_mem_cons.mp h
    -- what names the first column, and the column among the others, count for no column of the rest
    have hleft : (Sql.join (rest.map fun set => .seq [.ident set.1, " = ", set.2]) separator).bound ≤
        factor * (document.filter fun entry => !names s className set.1 entry).length +
          (others.filter (· != set.1)).length := by
      refine ih hrest fun other hother => ?_
      have hne : other.1 ≠ set.1 := fun heq => hnew (List.mem_map.mpr ⟨other, hother, heq⟩)
      have hmem : other.1 ∈ others.filter (· != set.1) ↔ other.1 ∈ others := by
        simp [List.mem_filter, hne]
      rw [countP_names_of_ne hne, if_congr hmem rfl rfl]
      exact hsets other hother
    have hkept := place_add_length_le set.1 others
    have hbound : (Sql.seq [.ident set.1, " = ", set.2]).bound = set.2.bound := by simp
    rw [List.map_cons, Sql.bound_join_cons, hbound, length_eq_names s className set.1 document,
      Nat.mul_add]
    omega

/-- The items of a list bind what the assignments do; the names they assign bind nothing. -/
theorem bound_setItems {separator : String} :
    (Sql.join (setItems root sets) separator).bound =
      (Sql.join (sets.map fun set => .seq [.ident set.1, " = ", set.2]) separator).bound := by
  simp [setItems, Target.column]

/-! ## Keys that compute -/

/-- What is left of a path inside a column is a place in a document. -/
theorem isJson_of_columnBelow {refuse : PathReason → Error} {name : String} {ty : FieldType}
    {segments : List Segment} {found : Column} {path : List String}
    (h : s.columnBelow refuse name ty segments = .ok found) (hpath : found.path = .json path) :
    found.type.isJson = true := by
  fun_induction Schema.columnBelow s refuse name ty segments with
  | case2 name rest fields sub member hfound ih => exact ih h
  | case8 | case9 =>
    obtain ⟨_, -, rfl⟩ := Result.map_eq_ok.mp h
    cases hpath
  | case10 name rest ty segment _ _ _ _ hjson =>
    cases h
    exact hjson
  | case1 | case6 =>
    cases h
    cases hpath
  | case3 | case4 | case5 | case7 | case11 | case12 => cases h

/-- A key that computes on a column that is no document is the column. -/
theorem eq_of_computes (hs : s.Accepted) {entry : String × Json} (h : Asks s className entry changes)
    {ty : FieldType} (htype : s.typeIn? className column = some ty) (hplain : ty.isJson = false)
    (hcomputes : computes s className column entry = true) : entry.1 = column := by
  obtain ⟨hnames, hop⟩ := Bool.and_eq_true_iff.mp hcomputes
  obtain ⟨c, hc, -⟩ := Schema.typeIn?_eq_some.mp htype
  cases h with
  | whole _ hfound =>
    rw [names_of_column hfound] at hnames
    exact ((hs.column_eq_column hc).mp hfound).2.symm.trans (beq_iff_eq.mp hnames)
  | inside _ hfound =>
    rw [names_of_column hfound] at hnames
    obtain rfl := beq_iff_eq.mp hnames
    obtain rfl := Option.some.inj ((hs.typeIn?_of_column hfound).1.symm.trans htype)
    obtain ⟨_, -, hcolumn⟩ := Result.bind_eq_ok.mp hfound
    obtain ⟨_, _, _, _, -, -, -, hbelow⟩ := Schema.columnOf_eq_ok.mp hcolumn
    rw [isJson_of_columnBelow hbelow rfl] at hplain
    cases hplain
  | spread hu => simp [hu, Except.toOption] at hop

/-- Distinct keys compute at most once on a column that is no document. -/
theorem countP_computes_le (hs : s.Accepted) (hkeys : (document.map (·.1)).Nodup)
    {changes : List (List Change)} (hasked : List.Forall₂ (Asks s className) document changes)
    {ty : FieldType} (htype : s.typeIn? className column = some ty) (hplain : ty.isJson = false) :
    document.countP (computes s className column) ≤ 1 := by
  have hsame : document.countP (computes s className column) ≤
      document.countP fun entry => entry.1 == column := by
    refine List.countP_mono_left fun entry hentry hcomputes => ?_
    obtain ⟨own, -, hasks⟩ := Result.exists_right_of_forall₂ hasked entry hentry
    exact beq_iff_eq.mpr (eq_of_computes hs hasks htype hplain hcomputes)
  refine hsame.trans ?_
  have hcount := List.nodup_iff_count_le_one.mp hkeys column
  rwa [List.count, List.countP_map] at hcount

/-! ## What a SET list binds -/

/-- A column is assigned as part of a shape when some key of the document spreads to it. -/
theorem mem_shapeColumns :
    column ∈ shapeColumns s className document ↔
      ∃ entry ∈ document, column ∈ spreadTo s className entry.1 := by
  rw [shapeColumns, List.mem_eraseDups, List.mem_flatMap]

section

variable {changes : List (List Change)} {items : List Sql}
  (h : ComesOf s root document changes sets items)

include h

/-- The exact law: each change multiplies what the column has bound by its mentions. -/
theorem ComesOf.bound_eq {value : Sql} (hset : (column, value) ∈ sets) :
    value.bound =
      (changes.flatten.filter (·.column = column)).foldl (fun n change => change.binds n) 0 :=
  bound_of_foldlM (h.folded column value hset)

/-- A column that is set has a type, and the keys that compute on it are few if those of documents are. -/
theorem ComesOf.countP_le (hs : s.Accepted) (hkeys : (document.map (·.1)).Nodup) {r : Nat}
    (hr : 1 ≤ r) (hfew : ∀ column ty, s.typeIn? root.className column = some ty → ty.isJson = true →
      document.countP (computes s root.className column) ≤ r)
    (hcolumn : column ∈ sets.map (·.1)) :
    document.countP (computes s root.className column) ≤ r := by
  obtain ⟨change, hchange, rfl⟩ := (h.columns column).mp hcolumn
  obtain ⟨own, hown, hchange⟩ := List.mem_flatten.mp hchange
  obtain ⟨entry, -, hasks⟩ := Result.exists_left_of_forall₂ h.asked own hown
  obtain ⟨htype, -⟩ := hasks.typeIn? hs hchange
  cases hplain : change.type.isJson with
  | true => exact hfew _ _ htype hplain
  | false => exact (countP_computes_le hs hkeys h.asked htype hplain).trans hr

/-- The bound for a column: the keys that name it, and one value if a shape assigns it. -/
theorem ComesOf.column_le {set : String × Sql} (hset : set ∈ sets) {r : Nat}
    (hcount : document.countP (computes s root.className set.1) ≤ r) :
    set.2.bound ≤ Nat.pow 5 r * document.countP (names s root.className set.1) +
      if set.1 ∈ shapeColumns s root.className document then 1 else 0 := by
  have hspread : ∀ entry ∈ document, set.1 ∈ spreadTo s root.className entry.1 →
      1 ≤ if set.1 ∈ shapeColumns s root.className document then 1 else 0 :=
    fun entry hentry hcolumn => by rw [if_pos (mem_shapeColumns.mpr ⟨entry, hentry, hcolumn⟩)]
  have hbound := binds_of_document (n := 0) (r := 0) (d := 0) h.asked hspread
    (by split <;> decide) (Nat.zero_le _)
  rw [Nat.zero_add, Nat.zero_add] at hbound
  rw [h.bound_eq hset]
  exact hbound.trans (Nat.add_le_add_right
    (Nat.mul_le_mul_right _ (Nat.pow_le_pow_right (by decide) hcount)) _)

/--
A list binds at most five to the number of computing keys of a column, for each key and each column of a
shape.
-/
theorem ComesOf.bound_le (hs : s.Accepted) (hkeys : (document.map (·.1)).Nodup) {r : Nat}
    (hr : 1 ≤ r) (hfew : ∀ column ty, s.typeIn? root.className column = some ty → ty.isJson = true →
      document.countP (computes s root.className column) ≤ r) :
    (Sql.join items ", ").bound ≤
      Nat.pow 5 r * document.length + (shapeColumns s root.className document).length := by
  have honce := h.once
  rw [h.items_eq, setColumns_setItems] at honce
  rw [h.items_eq, bound_setItems]
  exact bound_join_le (List.nodup_cons.mp (List.nodup_cons.mp honce).2).2 fun set hset =>
    h.column_le hset (h.countP_le hs hkeys hr hfew (List.mem_map_of_mem hset))

end

/--
What a column binds is folded along its changes, each of which binds its own operand and multiplies what
has been bound before by its mentions: one at most for a change that sets, five for any other. If the keys
are distinct and at most `r` of them compute on any one document, the SET list binds at most `5 ^ r` values
for each key, and one for each column that is assigned by a shape. Columns that are no documents need no
such condition: distinct keys compute on them once.
-/
theorem setList_bound {v : Json} (hs : Schema.ofJson v = .ok s)
    (hkeys : (document.map (·.1)).Nodup) {op : Operation}
    (hop : op = .update document ∨ ∃ object, op = .upsert document object) {sql : Sql}
    (h : Compile.Runs (op.compile s q) n sql n') :
    (∃ changes sets, ComesOf s q.root document changes sets sql.setList ∧
      (∀ change ∈ changes.flatten,
        change.own ≤ 1 ∧ change.mentions ≤ if change.update.op = .set then 1 else 5) ∧
      ∀ column value, (column, value) ∈ sets → value.bound =
        (changes.flatten.filter (·.column = column)).foldl
          (fun n change => change.own + change.mentions * n) 0) ∧
    ∀ r, 1 ≤ r → (∀ column ty, s.typeIn? q.className column = some ty → ty.isJson = true →
        document.countP (computes s q.className column) ≤ r) →
      (Sql.join sql.setList ", ").bound ≤
        Nat.pow 5 r * document.length + (shapeColumns s q.className document).length := by
  have hs := Schema.accepted_of_ofJson hs
  obtain ⟨sets, hsets, hitems⟩ := setList_of_runs hop h
  obtain ⟨changes, hcomes⟩ := comesOf_setItems hs hsets
  rw [← hitems] at hcomes
  exact ⟨⟨changes, sets, hcomes, fun change _ => ⟨change.own_le, change.mentions_le⟩,
    fun column value => hcomes.bound_eq⟩, fun r hr hfew => hcomes.bound_le hs hkeys hr hfew⟩

/-- Of the four keys of the moved note one computes on a document, and one is a shape with two columns. -/
theorem setList_bound_of_movedNote :
    ∃ sql n', Schema.ofJson placedNotes = .ok placedSchema ∧ (movedNote.map (·.1)).Nodup ∧
      Compile.Runs ((Operation.update movedNote).compile placedSchema placedQuery) 0 sql n' ∧
      shapeColumns placedSchema "Note" movedNote = ["address.city", "address.place.label"] ∧
      (Sql.join sql.setList ", ").bound = 3 ∧ (Sql.join sql.setList ", ").bound ≤ 5 * 4 + 2 := by
  have hschema : Schema.ofJson placedNotes = .ok placedSchema := by rfl
  have hkeys : (movedNote.map (·.1)).Nodup := by decide
  have hshape : shapeColumns placedSchema "Note" movedNote =
      ["address.city", "address.place.label"] := by
    decide +kernel
  obtain ⟨sql, n', hrun, hbound⟩ := Compile.exists_runs_of_any
    (x := (Operation.update movedNote).compile placedSchema placedQuery) (n := 0)
    (p := fun sql => decide ((Sql.join sql.setList ", ").bound = 3)) (by decide +kernel)
  have hone : movedNote.countP (fun entry =>
      (Update.decode entry.2).toOption.any (·.op != .set)) = 1 := by
    decide +kernel
  have hfew : ∀ column ty, placedSchema.typeIn? placedQuery.className column = some ty →
      ty.isJson = true →
      movedNote.countP (computes placedSchema placedQuery.className column) ≤ 1 := by
    intro column _ _ _
    rw [← hone]
    exact List.countP_mono_left fun entry _ hcomputes => (Bool.and_eq_true_iff.mp hcomputes).2
  have hle := (setList_bound hschema hkeys (.inl rfl) hrun).2 1 (Nat.le_refl 1) hfew
  refine ⟨sql, n', hschema, hkeys, hrun, hshape, of_decide_eq_true hbound, hle.trans ?_⟩
  rw [show placedQuery.className = "Note" from rfl, hshape]
  decide

/-! ## Increments inside a document -/

/-- A change goes through whatever the current value is. -/
theorem exists_foldlM_assign (root : Target) (sets : Assignments)
    (h : ∀ change ∈ changes, ∀ current, ∃ sql, change.apply current = .ok sql) :
    ∃ sets', changes.foldlM (Change.assign root) sets = .ok sets' := by
  induction changes generalizing sets with
  | nil => exact ⟨sets, rfl⟩
  | cons change rest ih =>
    obtain ⟨hchange, hrest⟩ := List.forall_mem_cons.mp h
    obtain ⟨value, hvalue⟩ := hchange (sets.current root change.column)
    obtain ⟨sets', hsets'⟩ := ih (sets.put change.column value) hrest
    refine ⟨sets', ?_⟩
    rw [List.foldlM_cons]
    exact Result.bind_eq_ok.mpr ⟨_, assign_eq_ok.mpr ⟨value, hvalue, rfl⟩, hsets'⟩

/-- What an update locks and returns does not depend on its document. -/
theorem runs_update {others : List (String × Json)} {sql : Sql}
    (h : Compile.Runs (update s q others) n sql n')
    (hsets : assignments s q.root document = .ok sets) :
    ∃ sql, Compile.Runs (update s q document) n sql n' := by
  obtain ⟨candidates, m, hcandidates, h⟩ := Compile.runs_bind.mp h
  obtain ⟨changed, m', hchanged, h⟩ := Compile.runs_bind.mp h
  obtain ⟨-, rfl⟩ := Compile.runs_lift.mp hchanged
  obtain ⟨r, m', hr, h⟩ := Compile.runs_bind.mp h
  obtain ⟨-, rfl⟩ := Compile.runs_pure.mp h
  exact ⟨_, Compile.runs_bind.mpr ⟨candidates, m, hcandidates, Compile.runs_bind.mpr
    ⟨_, m, Compile.runs_lift.mpr ⟨Result.bind_eq_ok.mpr ⟨sets, hsets, rfl⟩, rfl⟩,
      Compile.runs_bind.mpr ⟨r, m', hr, Compile.runs_pure.mpr ⟨rfl, rfl⟩⟩⟩⟩⟩

/-- The names of the counters in a note's data. -/
def counter (i : Nat) : String := String.ofList (List.replicate (i + 1) 'a')

/-- Increments of some counters. -/
def increments (count : Nat) : List (String × Json) :=
  (List.range count).map fun i => ("data" ++ "." ++ counter i, .obj [("$inc", .ofInt 1)])

/-- The change of one counter. -/
def increment (i : Nat) : Change := ⟨"data", .primitive .object none, [counter i], ⟨.inc, .ofInt 1⟩⟩

/-- The name of a counter is a plain name. -/
theorem isName_counter (i : Nat) : Schema.isName (counter i) = true := by
  have hparts : ∀ c ∈ List.replicate i 'a', Schema.isNamePart c = true := by
    intro c hc
    rw [List.eq_of_mem_replicate hc]
    decide
  rw [Schema.isName, counter, String.toList_ofList, List.replicate_succ]
  exact Bool.and_eq_true_iff.mpr ⟨by decide, List.all_eq_true.mpr hparts⟩

/-- The key of a counter is a path of two fields. -/
theorem parse_counter (i : Nat) :
    Path.parse ("data" ++ "." ++ counter i) = .ok [.field "data", .field (counter i)] :=
  Path.parse_cons (by decide) (Path.parse_name (isName_counter i))

/-- The key of a counter names none of the fixed fields. -/
theorem not_isFixed_counter (i : Nat) :
    isFixed (Gate.keyHead ("data" ++ "." ++ counter i)) = false := by
  rw [Gate.keyHead_of_parse (parse_counter i)]
  decide

/-- The key of a counter leads into the note's data. -/
theorem column_counter (i : Nat) : placedSchema.column "Note" ("data" ++ "." ++ counter i) =
    .ok ⟨"data", .primitive .object none, .json [counter i]⟩ :=
  Result.bind_eq_ok.mpr ⟨_, parse_counter i, rfl⟩

/-- Different counters have different keys. -/
theorem counter_injective : Function.Injective fun i => "data" ++ "." ++ counter i := by
  intro i j h
  have hlength := congrArg String.length h
  simpa [counter] using hlength

/-- The increments stand under different keys. -/
theorem nodup_increments (count : Nat) : ((increments count).map (·.1)).Nodup := by
  rw [increments, List.map_map]
  exact List.nodup_range.map counter_injective

/-- No increment spreads over a shape. -/
theorem shapeColumns_increments (count : Nat) :
    shapeColumns placedSchema "Note" (increments count) = [] := by
  have hspread : ∀ entry ∈ increments count, spreadTo placedSchema "Note" entry.1 = [] := by
    refine List.forall_mem_map.mpr fun i _ => ?_
    rw [spreadTo, column_counter]
    rfl
  rw [shapeColumns, List.flatMap_eq_nil_iff.mpr hspread]
  rfl

/-- The changes that the increments ask for, all of the note's data. -/
theorem asks_increments (count : Nat) :
    List.Forall₂ (Asks placedSchema "Note") (increments count)
      ((List.range count).map fun i => [increment i]) := by
  rw [increments, List.forall₂_map_left_iff, List.forall₂_map_right_iff, List.forall₂_same]
  exact fun i _ => .inside rfl (column_counter i) rfl

/-- An increment of a counter triples what has been bound before. -/
theorem binds_increment (i n : Nat) : (increment i).binds n = 1 + 3 * n := by
  rfl

theorem apply_increment (i : Nat) (current : Sql) : ∃ sql, (increment i).apply current = .ok sql :=
  ⟨_, rfl⟩

/-- Some increments bind at least as many values as the square of their number. -/
theorem sq_le_binds_increments (count : Nat) :
    count * count ≤ ((List.range count).map increment).foldl (fun n change => change.binds n) 0 := by
  induction count with
  | zero => exact Nat.le_refl 0
  | succ count ih =>
    rw [List.range_succ, List.map_append, List.foldl_append, List.map_singleton, List.foldl_cons,
      List.foldl_nil, binds_increment]
    have hle : count ≤ count * count := Nat.le_mul_self count
    rw [Nat.add_one_mul, Nat.mul_add_one]
    omega

/-- Increments compile, and the value of the data binds more than any multiple of their number. -/
theorem exists_assignments_increments (root : Target) (hroot : root.className = "Note")
    (count : Nat) :
    ∃ sets, assignments placedSchema root (increments (count + 1)) = .ok sets ∧
      ∃ value, ("data", value) ∈ sets ∧ (count + 1) * (count + 1) ≤ value.bound := by
  have hflat : ((List.range (count + 1)).map fun i => [increment i]).flatten =
      (List.range (count + 1)).map increment := List.map_eq_flatMap.symm
  have happly : ∀ change ∈ (List.range (count + 1)).map increment, ∀ current,
      ∃ sql, change.apply current = .ok sql := List.forall_mem_map.mpr fun i _ => apply_increment i
  obtain ⟨sets, hsets⟩ := exists_foldlM_assign root [] happly
  have hfree : ∀ entry ∈ increments (count + 1), isFixed (Gate.keyHead entry.1) = false :=
    List.forall_mem_map.mpr fun i _ => not_isFixed_counter i
  refine ⟨sets, foldlM_assignKey_eq_ok.mpr ⟨hfree, _, hroot ▸ asks_increments _, hflat ▸ hsets⟩, ?_⟩
  obtain ⟨hnodup, hkeys⟩ := keys_of_foldlM hsets List.nodup_nil
  obtain ⟨⟨name, value⟩, hvalue, rfl⟩ := List.mem_map.mp ((hkeys "data").mpr
    (.inr ⟨increment 0, List.mem_map_of_mem (List.mem_range.mpr count.succ_pos), rfl⟩))
  refine ⟨value, hvalue, ?_⟩
  have hdata : ∀ change ∈ (List.range (count + 1)).map increment,
      decide (change.column = "data") = true := List.forall_mem_map.mpr fun _ _ => rfl
  have hfold := current_of_foldlM hsets "data"
  rw [List.filter_eq_self.mpr hdata, Assignments.current_of_mem hnodup hvalue] at hfold
  rw [bound_of_foldlM hfold]
  exact sq_le_binds_increments (count + 1)

/--
No multiple of the number of keys bounds what a SET list binds, not even beside the columns of shapes: an
increment inside a document binds what the increments before it have bound three times.
-/
theorem setList_bound_not_linear :
    ¬ ∃ c, ∀ {v : Json} {s : Schema} {q : Query} {document : List (String × Json)} {sql : Sql}
        {n n' : Nat},
      Schema.ofJson v = .ok s → (document.map (·.1)).Nodup →
      Compile.Runs ((Operation.update document).compile s q) n sql n' →
      (Sql.join sql.setList ", ").bound ≤
        c * document.length + (shapeColumns s q.className document).length := by
  rintro ⟨c, hc⟩
  have hschema : Schema.ofJson placedNotes = .ok placedSchema := by rfl
  obtain ⟨sets, hsets, value, hvalue, hmany⟩ :=
    exists_assignments_increments placedQuery.root rfl c
  obtain ⟨_, _, hrun, -⟩ := Compile.exists_runs_of_any (x := update placedSchema placedQuery [])
    (n := 0) (p := fun _ => true) (by decide +kernel)
  obtain ⟨sql, hrun⟩ := runs_update hrun hsets
  have hle := hc hschema (nodup_increments (c + 1)) hrun
  obtain ⟨sets', hsets', hitems⟩ := setList_of_runs (.inl rfl) hrun
  obtain rfl := Except.ok.inj (hsets.symm.trans hsets')
  have hbound : value.bound ≤ (Sql.join sql.setList ", ").bound := by
    rw [hitems, bound_setItems]
    have hitem : (Sql.seq [.ident "data", " = ", value]).bound = value.bound := by simp
    exact hitem ▸ Sql.bound_le_join (List.mem_map_of_mem hvalue)
  have hlength : (increments (c + 1)).length = c + 1 := by simp [increments]
  rw [hlength, show placedQuery.className = "Note" from rfl, shapeColumns_increments] at hle
  have hsucc : (c + 1) * (c + 1) = c * (c + 1) + (c + 1) := Nat.succ_mul c (c + 1)
  rw [List.length_nil] at hle
  omega

end Write

end ObjectQuery
