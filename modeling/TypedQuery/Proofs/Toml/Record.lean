import TypedQuery.Toml.Reader
import Mathlib.Data.List.Induction
import Mathlib.Data.List.Nodup

/-! The fields of a record that is read from a TOML item: what the item says or else the default. -/
namespace TypedQuery.Toml

/-- The members of a table by their names. -/
def Members.entries (members : Members) : List (String × Item) :=
  members.map fun member => (member.1.name, member.2)

/-- The last item under a name. -/
def last? (entries : List (String × Item)) (name : String) : Option Item :=
  entries.reverse.lookup name

/-- What entries say under a name, as `read` takes it. -/
def said? {β : Type} (read : Reader β) (entries : List (String × Item)) (name : String) :
    Option β :=
  (last? entries name).bind fun item => (read item).toOption

theorem last?_concat (entries : List (String × Item)) (key name : String) (item : Item) :
    last? (entries ++ [(key, item)]) name =
      if key = name then some item else last? entries name := by
  rw [last?, List.reverse_concat, List.lookup_cons]
  by_cases h : key = name
  · rw [h, beq_self_eq_true, if_pos rfl]
  · rw [beq_false_of_ne (Ne.symm h), if_neg h, last?]

namespace RecordForm

variable {α β : Type} {form : RecordForm α}

/-- What an item says about the fields of a record: a table by its members, a sequence by the places
of its items. -/
def entries (form : RecordForm α) : Item → List (String × Item)
  | .inline _ _ members | .table _ _ members => Members.entries members
  | .array _ items | .tables items => (form.fields.map Prod.fst).zip items
  | .scalar _ _ => []

def putEntry (form : RecordForm α) (record : α) (entry : String × Item) : Except Misfit α :=
  match form.fields.lookup entry.1 with
  | some put => put entry.2 record
  | none => .ok record

section Entries

variable {record result defaults : α} {item : Item}

theorem putEntries_of_putMembers {members : Members}
    (h : form.putMembers members record = .ok result) :
    (Members.entries members).foldlM form.putEntry record = .ok result := by
  induction members generalizing record with
  | nil => exact h
  | cons member members ih =>
    obtain ⟨key, item⟩ := member
    rw [putMembers, List.foldlM_cons] at h
    rw [Members.entries, List.map_cons, List.foldlM_cons, putEntry]
    dsimp only at h ⊢
    cases hput : form.fields.lookup key.name with
    | none =>
      rw [hput] at h
      exact ih h
    | some put =>
      rw [hput] at h
      dsimp only at h ⊢
      cases hnext : put item record with
      | error misfit =>
        rw [hnext] at h
        cases h
      | ok next =>
        rw [hnext] at h
        exact ih h

theorem lookup_of_mem (hnames : (form.fields.map Prod.fst).Nodup) {name : String}
    {put : Item → α → Except Misfit α} (h : (name, put) ∈ form.fields) :
    form.fields.lookup name = some put := by
  obtain ⟨front, back, hfields⟩ := List.append_of_mem h
  rw [hfields, List.map_append, List.map_cons, List.nodup_append] at hnames
  rw [List.lookup_eq_some_iff]
  refine ⟨front, back, hfields, fun entry hentry => ?_⟩
  have hne : entry.1 ≠ name :=
    hnames.2.2 entry.1 (List.mem_map_of_mem hentry) name List.mem_cons_self
  simpa using Ne.symm hne

/-- Items are put as if each stood under the name of the field at its place. -/
theorem putItems_eq (hnames : (form.fields.map Prod.fst).Nodup) (items : List Item) (record : α) :
    form.putItems items record =
      ((form.fields.map Prod.fst).zip items).foldlM form.putEntry record := by
  -- The fields run out along with the items, while an entry is looked up among all of them.
  suffices hfields : ∀ fields, fields ⊆ form.fields → ∀ items record,
      RecordForm.putItems ⟨form.name, fields⟩ items record =
        ((fields.map Prod.fst).zip items).foldlM form.putEntry record from
    hfields form.fields (List.Subset.refl _) items record
  intro fields hsubset
  induction fields with
  | nil => intro items record; rfl
  | cons field fields ih =>
    intro items record
    obtain ⟨hfield, hrest⟩ := List.cons_subset.mp hsubset
    cases items with
    | nil => rfl
    | cons item items =>
      have hput : form.putEntry record (field.1, item) = field.2 item record := by
        rw [putEntry, lookup_of_mem hnames hfield]
      rw [List.map_cons, List.zip_cons_cons, List.foldlM_cons, hput, putItems, List.zip_cons_cons,
        List.foldlM_cons]
      exact bind_congr fun next => ih hrest items next

theorem putEntries_of_reader (hnames : (form.fields.map Prod.fst).Nodup)
    (h : form.reader defaults item = .ok result) :
    (form.entries item).foldlM form.putEntry defaults = .ok result := by
  unfold reader at h
  split at h
  · exact putEntries_of_putMembers h
  · exact putEntries_of_putMembers h
  · rwa [putItems_eq hnames] at h
  · rwa [putItems_eq hnames] at h
  · exact h
  · cases h

end Entries

section Field

/-- What `get` sees of a record is its field of that name: an item put there is seen as `read` takes
it, and items put elsewhere make no difference. -/
structure IsField (form : RecordForm α) (name : String) (read : Reader β) (get : α → β) : Prop where
  isSome : (form.fields.lookup name).isSome
  own : ∀ {put item before after}, form.fields.lookup name = some put →
    put item before = .ok after → read item = .ok (get after)
  other : ∀ {key put item before after}, key ≠ name → form.fields.lookup key = some put →
    put item before = .ok after → get after = get before

/-- Puts what `read` takes an item for. -/
def puts (read : Reader β) (set : α → β → α) (item : Item) (record : α) : Except Misfit α := do
  return set record (← read item)

def Keeps (get : α → β) (put : Item → α → Except Misfit α) : Prop :=
  ∀ item before after, put item before = .ok after → get after = get before

variable {name : String} {read : Reader β} {get : α → β} {record result defaults : α}
  {entries : List (String × Item)} {item : Item}

theorem puts_eq_ok {set : α → β → α} (h : puts read set item record = .ok result) :
    ∃ value, read item = .ok value ∧ result = set record value := by
  rw [puts] at h
  cases hread : read item with
  | error misfit =>
    rw [hread] at h
    cases h
  | ok value =>
    rw [hread] at h
    exact ⟨value, rfl, (Except.ok.inj h).symm⟩

theorem keeps_puts {γ : Type} (readOther : Reader γ) (set : α → γ → α)
    (h : ∀ record value, get (set record value) = get record) : Keeps get (puts readOther set) := by
  intro item before after hput
  obtain ⟨value, -, rfl⟩ := puts_eq_ok hput
  exact h before value

theorem isField_of_puts (set : α → β → α)
    (hlookup : form.fields.lookup name = some (puts read set))
    (hget : ∀ record value, get (set record value) = value)
    (hkeeps : ∀ field ∈ form.fields, field.1 = name ∨ Keeps get field.2) :
    form.IsField name read get := by
  constructor
  case isSome => rw [hlookup, Option.isSome_some]
  case own =>
    intro put item before after hput hresult
    obtain rfl := Option.some.inj (hlookup.symm.trans hput)
    obtain ⟨value, hread, rfl⟩ := puts_eq_ok hresult
    rw [hread, hget]
  case other =>
    intro key put item before after hkey hput hresult
    obtain ⟨front, back, hfields, -⟩ := List.lookup_eq_some_iff.mp hput
    have hmem : (key, put) ∈ form.fields := by
      rw [hfields]
      exact List.mem_append_right front List.mem_cons_self
    exact (hkeeps _ hmem).resolve_left hkey _ _ _ hresult

/-- The fields of a record of two, where each is put without a change to the other. -/
theorem isField_of_two {γ : Type} {other : String} {readOther : Reader γ} {getOther : α → γ}
    (set : α → β → α) (setOther : α → γ → α)
    (hfields : form.fields = [(name, puts read set), (other, puts readOther setOther)])
    (hne : name ≠ other) (hset : ∀ record value, get (set record value) = value)
    (hsetOther : ∀ record value, getOther (setOther record value) = value)
    (hget : ∀ record value, get (setOther record value) = get record)
    (hgetOther : ∀ record value, getOther (set record value) = getOther record) :
    form.IsField name read get ∧ form.IsField other readOther getOther := by
  constructor
  · refine isField_of_puts set (by rw [hfields, List.lookup_cons_self]) hset ?_
    rw [hfields, List.forall_mem_cons, List.forall_mem_singleton]
    exact ⟨.inl rfl, .inr (keeps_puts readOther setOther hget)⟩
  · have hlookup : form.fields.lookup other = some (puts readOther setOther) := by
      rw [hfields, List.lookup_cons, beq_false_of_ne hne.symm]
      exact List.lookup_cons_self
    refine isField_of_puts setOther hlookup hsetOther ?_
    rw [hfields, List.forall_mem_cons, List.forall_mem_singleton]
    exact ⟨.inr (keeps_puts read set hgetOther), .inl rfl⟩

theorem IsField.read_of_putEntry (h : IsField form name read get)
    (hput : form.putEntry record (name, item) = .ok result) : read item = .ok (get result) := by
  obtain ⟨put, hlookup⟩ := Option.isSome_iff_exists.mp h.isSome
  rw [putEntry, hlookup] at hput
  exact h.own hlookup hput

theorem IsField.get_of_putEntry (h : IsField form name read get) {key : String} (hkey : key ≠ name)
    (hput : form.putEntry record (key, item) = .ok result) : get result = get record := by
  rw [putEntry] at hput
  cases hlookup : form.fields.lookup key with
  | none =>
    rw [hlookup] at hput
    rw [Except.ok.inj hput]
  | some put =>
    rw [hlookup] at hput
    exact h.other hkey hlookup hput

/-- After all entries the field is what the last one of its name is read as, or what it was. -/
theorem IsField.get_putEntries (h : IsField form name read get)
    (hput : entries.foldlM form.putEntry record = .ok result) :
    match last? entries name with
    | some item => read item = .ok (get result)
    | none => get result = get record := by
  induction entries using List.reverseRecOn generalizing result with
  | nil =>
    obtain rfl := Except.ok.inj hput
    rfl
  | append_singleton entries entry ih =>
    obtain ⟨key, item⟩ := entry
    rw [List.foldlM_append] at hput
    cases hbefore : entries.foldlM form.putEntry record with
    | error misfit =>
      rw [hbefore] at hput
      cases hput
    | ok before =>
      rw [hbefore] at hput
      change [(key, item)].foldlM form.putEntry before = .ok result at hput
      have hlast : form.putEntry before (key, item) = .ok result := by simpa using hput
      rw [last?_concat]
      by_cases hkey : key = name
      · subst hkey
        rw [if_pos rfl]
        exact h.read_of_putEntry hlast
      · rw [if_neg hkey, h.get_of_putEntry hkey hlast]
        exact ih hbefore

theorem IsField.get_reader (h : IsField form name read get)
    (hnames : (form.fields.map Prod.fst).Nodup) (hread : form.reader defaults item = .ok result) :
    get result = (said? read (form.entries item) name).getD (get defaults) := by
  have hlast := h.get_putEntries (putEntries_of_reader hnames hread)
  rw [said?]
  cases hitem : last? (form.entries item) name with
  | none =>
    rw [hitem] at hlast
    exact hlast
  | some last =>
    rw [hitem] at hlast
    rw [Option.bind_some, hlast]
    rfl

/-- A field of a table that is itself a field: the last table of the name alone is looked at. -/
theorem IsField.get_inner {γ : Type} {inner : RecordForm γ} {table : String} {tableOf : α → γ}
    {get : γ → β} {defaults : γ} (htable : form.IsField table (inner.reader defaults) tableOf)
    (h : inner.IsField name read get) (hnames : (inner.fields.map Prod.fst).Nodup)
    (hdefaults : tableOf record = defaults)
    (hput : entries.foldlM form.putEntry record = .ok result) :
    get (tableOf result) = ((last? entries table).bind fun item =>
      said? read (inner.entries item) name).getD (get defaults) := by
  have hlast := htable.get_putEntries hput
  cases hitem : last? entries table with
  | none =>
    rw [hitem] at hlast
    rw [hlast, hdefaults]
    rfl
  | some item =>
    rw [hitem] at hlast
    exact h.get_reader hnames hlast

end Field

end RecordForm
end TypedQuery.Toml
