import Mathlib
import KeyedComposite.Log.Handler

/-! # Keys of console fields

Every field on a console line, of the writer's attributes or of the record's, is printed
under one key: the names of the groups open on the writer when the line is written, then
the keys of the non-empty groups around the field inside its attribute, then its own key,
joined by dots (`fieldsAll_eq_map_leaves`). The groups open when an attribute was added play
no part, so adding attributes and opening a group commute on a console writer, and a group
with an empty name changes nothing (`console_keys_use_groups_open_at_write`). A component
tag added before a group is opened is therefore printed as a field under that group, and
the line gets no component prefix.
-/
namespace KeyedComposite.Log

/-- A field of an attribute tree: the keys of the non-empty groups around it, outermost
first, its own key and its value. -/
structure Leaf where
  groups : List String
  key : String
  value : Value

namespace Leaf

def under (k : String) (l : Leaf) : Leaf :=
  if k = "" then l else { l with groups := k :: l.groups }

def keyed (path : List String) (l : Leaf) : String × Value :=
  (Console.dotted (path ++ l.groups) l.key, l.value)

theorem keyed_under (path : List String) (k : String) (l : Leaf) :
    keyed path (under k l) = keyed (if k = "" then path else path ++ [k]) l := by
  unfold under
  split <;> simp [keyed]

end Leaf

mutual
def Attr.leaves : Attr → List Leaf
  | .empty => []
  | .field k v => [⟨[], k, v⟩]
  | .group k ms => (Attr.leavesAll ms).map (Leaf.under k)

def Attr.leavesAll : List Attr → List Leaf
  | [] => []
  | a :: rest => a.leaves ++ Attr.leavesAll rest
end

@[simp] theorem Attr.leavesAll_append (as bs : List Attr) :
    Attr.leavesAll (as ++ bs) = Attr.leavesAll as ++ Attr.leavesAll bs := by
  induction as with
  | nil => rfl
  | cons a rest ih => simp [Attr.leavesAll, ih]

namespace Console

mutual
/-- An attribute's fields are its leaves, each keyed by the open path followed by its own
groups: the recursion of `attrFields` pushes the group onto the path, the leaf view pushes it
onto the leaf, and `Leaf.keyed_under` says the two meet. -/
theorem attrFields_eq_map_leaves : ∀ (path : List String) (a : Attr),
    attrFields path a = a.leaves.map (Leaf.keyed path)
  | _, .empty => by simp [attrFields, Attr.leaves]
  | _, .field k v => by simp [attrFields, Attr.leaves, Leaf.keyed]
  | path, .group k ms => by
    rw [attrFields, Attr.leaves, fieldsAll_eq_map_leaves, List.map_map]
    congr 1
    funext l
    exact (Leaf.keyed_under path k l).symm

theorem fieldsAll_eq_map_leaves : ∀ (path : List String) (as : List Attr),
    fieldsAll path as = (Attr.leavesAll as).map (Leaf.keyed path)
  | _, [] => by simp [fieldsAll, Attr.leavesAll]
  | path, a :: rest => by
    rw [fieldsAll, Attr.leavesAll, attrFields_eq_map_leaves, fieldsAll_eq_map_leaves,
      List.map_append]
end

end Console

namespace Handler

def openGroups (h : Handler) : List String :=
  h.steps.filterMap fun
    | .group g => if g = "" then none else some g
    | .attrs _ => none

def addedAttrs (h : Handler) : List Attr :=
  h.steps.flatMap fun
    | .attrs as => as
    | .group _ => []

variable {h : Handler}

@[simp] theorem style_withAttrs (as : List Attr) : (h.withAttrs as).style = h.style := rfl
@[simp] theorem style_withGroup (g : String) : (h.withGroup g).style = h.style := rfl

@[simp] theorem openGroups_withAttrs (as : List Attr) :
    (h.withAttrs as).openGroups = h.openGroups := by
  simp [openGroups, withAttrs]

@[simp] theorem openGroups_withGroup (g : String) :
    (h.withGroup g).openGroups = h.openGroups ++ (if g = "" then [] else [g]) := by
  by_cases hg : g = "" <;> simp [openGroups, withGroup, hg]

@[simp] theorem addedAttrs_withAttrs (as : List Attr) :
    (h.withAttrs as).addedAttrs = h.addedAttrs ++ as := by
  simp [addedAttrs, withAttrs]

@[simp] theorem addedAttrs_withGroup (g : String) :
    (h.withGroup g).addedAttrs = h.addedAttrs := by
  simp [addedAttrs, withGroup]

/-- A console writer's line depends on its steps only through the groups it opened and the
attributes it was given, each in order. -/
theorem write_of_console {color : Bool} (hs : h.style = .console color) (r : Record) :
    h.write r = Console.line color h.openGroups h.addedAttrs r := by
  unfold write
  rw [hs]
  rfl

theorem write_withAttrs_withGroup {color : Bool} (hs : h.style = .console color)
    (as : List Attr) (g : String) (r : Record) :
    ((h.withAttrs as).withGroup g).write r = ((h.withGroup g).withAttrs as).write r := by
  rw [write_of_console (by simpa using hs), write_of_console (by simpa using hs)]
  simp

theorem write_withGroup_empty {color : Bool} (hs : h.style = .console color) (r : Record) :
    (h.withGroup "").write r = h.write r := by
  rw [write_of_console (by simpa using hs), write_of_console hs]
  simp

/-- A console line is made of the writer's attributes and the record's, every field keyed by all
the groups open on the writer when the line is written and the non-empty groups around it;
the order of attributes and groups on the writer plays no part, and an unnamed group none. -/
theorem console_keys_use_groups_open_at_write {color : Bool} (hs : h.style = .console color)
    (as : List Attr) (g : String) (r : Record) :
    h.write r = Console.line color h.openGroups h.addedAttrs r ∧
      Console.fieldsAll h.openGroups (h.addedAttrs ++ r.attrs) =
        (Attr.leavesAll (h.addedAttrs ++ r.attrs)).map (Leaf.keyed h.openGroups) ∧
      ((h.withAttrs as).withGroup g).write r = ((h.withGroup g).withAttrs as).write r ∧
      (h.withGroup "").write r = h.write r :=
  ⟨write_of_console hs r, Console.fieldsAll_eq_map_leaves _ _,
    write_withAttrs_withGroup hs as g r, write_withGroup_empty hs r⟩

end Handler

def plainConsole : Handler := { style := .console false, threshold := Level.debug }

/-- The record an `info` call with message `msg` and no attributes makes at 03:04:05 UTC on
2 January 2024. -/
def sampleRecord : Record :=
  { time := ⟨2024, 1, 2, 3, 4, 5, 0, 0⟩, level := Level.info, message := "msg", attrs := [] }

theorem console_keys_use_groups_open_at_write_tagged :
    plainConsole.style = .console false ∧
      plainConsole.write sampleRecord =
        Console.line false plainConsole.openGroups plainConsole.addedAttrs sampleRecord ∧
      Console.fieldsAll plainConsole.openGroups (plainConsole.addedAttrs ++ sampleRecord.attrs) =
        (Attr.leavesAll (plainConsole.addedAttrs ++ sampleRecord.attrs)).map
          (Leaf.keyed plainConsole.openGroups) ∧
      ((plainConsole.withComponent "c").withGroup "g").write sampleRecord =
        ((plainConsole.withGroup "g").withComponent "c").write sampleRecord ∧
      (plainConsole.withGroup "").write sampleRecord = plainConsole.write sampleRecord :=
  ⟨rfl, Handler.console_keys_use_groups_open_at_write rfl
    [.field "component" (.str "c")] "g" sampleRecord⟩

/-- A component tag added before a group is opened is printed as a field under the group, and
the line gets no component prefix. -/
theorem component_tag_printed_under_later_group :
    ((plainConsole.withComponent "c").withGroup "g").writeAll [sampleRecord] =
      "2024-01-02T03:04:05Z INFO msg g.component=c\n" := by
  have hc : Console.valueText (.str "c") = "c" := by
    simp [Console.valueText, Console.needsQuotes, String.any]
  have hon :
      ((plainConsole.withComponent "c").withGroup "g").enabled sampleRecord.level = true := by
    decide
  have hline : ((plainConsole.withComponent "c").withGroup "g").write sampleRecord =
      "2024-01-02T03:04:05Z INFO msg g.component=c\n" := by
    rw [Handler.write_of_console rfl]
    have hkvs : Console.fieldsAll ((plainConsole.withComponent "c").withGroup "g").openGroups
        (((plainConsole.withComponent "c").withGroup "g").addedAttrs ++ sampleRecord.attrs) =
        [("g.component", .str "c")] := by
      rfl
    simp only [Console.line, hkvs]
    simp [hc]
    decide +kernel
  simp [Handler.writeAll, hon, hline]

end KeyedComposite.Log
