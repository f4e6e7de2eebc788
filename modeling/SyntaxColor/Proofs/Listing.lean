/-
  Listings can be read back.

  `fragmentsOfListing?`: a reader of listings, which reads each line on its own: a name, a tab,
  and a quoted text.
  `fragmentsOfListing?_flatMap`: it gives back the fragments that were listed.
  `listing_decodes`: so what the program prints of a source tells the fragments of the source, and
  the source itself.
-/
import SyntaxColor.CommandLine.Outcome
import SyntaxColor.Proofs.Fragment
import SyntaxColor.Proofs.Quoted

namespace SyntaxColor

open Text

/-! ## Reading -/

/-- The category with this name. -/
def Category.ofName? (name : Text) : Option Category :=
  (.uncolored :: styled).find? fun category => category.name.toList = name

/-- The fragment on a line: its category is named up to the first tab. -/
def Fragment.ofLine? (line : Text) : Option Fragment :=
  match line.dropWhile (· != '\t') with
  | [] => none
  | _ :: quoted => do
    let category ← Category.ofName? (line.takeWhile (· != '\t'))
    let text ← unquote? quoted
    return ⟨category, text⟩

/-- The fragments in a listing: a line feed ends each line, so there is none behind the last. -/
def fragmentsOfListing? (listing : Text) : Option (List Fragment) :=
  (listing.splitOn '\n').dropLast.mapM Fragment.ofLine?

/-! ## Lines -/

theorem ofName?_name (category : Category) :
    Category.ofName? category.name.toList = some category := by
  cases category <;> decide

/-- A name has neither the tab nor the line feed behind it in it. -/
theorem name_plain (category : Category) : '\t' ∉ category.name.toList ∧
    '\n' ∉ category.name.toList := by
  cases category <;> decide

section Line

variable (fragment : Fragment)

theorem listingLine_eq : fragment.listingLine =
    fragment.category.name.toList ++ '\t' :: fragment.text.quoted ++ ['\n'] := by
  simp [Fragment.listingLine]

/-- A line is read as the fragment that it shows. -/
theorem ofLine?_line :
    Fragment.ofLine? (fragment.category.name.toList ++ '\t' :: fragment.text.quoted) =
      some fragment := by
  have hname : ∀ c ∈ fragment.category.name.toList, (c != '\t') = true := fun c hc =>
    bne_iff_ne.2 fun heq => (name_plain fragment.category).1 (heq ▸ hc)
  unfold Fragment.ofLine?
  rw [List.dropWhile_append_of_pos hname, List.takeWhile_append_of_pos hname]
  simp [ofName?_name, unquote?_quoted]

theorem lineFeed_not_mem_line :
    '\n' ∉ fragment.category.name.toList ++ '\t' :: fragment.text.quoted := by
  simp [(name_plain fragment.category).2, lineFeed_not_mem_quoted]

end Line

/-- What was listed is read back. -/
theorem fragmentsOfListing?_flatMap (fragments : List Fragment) :
    fragmentsOfListing? (fragments.flatMap Fragment.listingLine) = some fragments := by
  unfold fragmentsOfListing?
  induction fragments with
  | nil => rfl
  | cons fragment fragments ih =>
    rw [List.flatMap_cons, listingLine_eq, List.append_assoc, List.singleton_append,
      List.splitOn_append_cons_self_of_not_mem (lineFeed_not_mem_line fragment),
      List.dropLast_cons_of_ne_nil (List.splitOn_ne_nil _ _), List.mapM_cons, ofLine?_line, ih]
    rfl

/-- Each fragment has one line. -/
theorem count_flatMap_listingLine (fragments : List Fragment) :
    (fragments.flatMap Fragment.listingLine).count '\n' = fragments.length := by
  induction fragments with
  | nil => rfl
  | cons fragment fragments ih =>
    rw [List.flatMap_cons, List.count_append, ih, listingLine_eq, List.count_append,
      List.count_eq_zero.2 (lineFeed_not_mem_line fragment), List.length_cons]
    simp [Nat.add_comm]

/-- Different sources have different listings. -/
theorem listing_injective : Function.Injective Text.listing := by
  intro source other h
  have hfragments : source.fragments = other.fragments := by
    have hsource := fragmentsOfListing?_flatMap source.fragments
    rw [← Text.listing, h, Text.listing, fragmentsOfListing?_flatMap] at hsource
    exact (Option.some.inj hsource).symm
  rw [← flatMap_fragments source, hfragments, flatMap_fragments]

/-! ## The program -/

namespace CommandLine

/-- Where the arguments ask for the categories, the program prints a listing of the source, if it
    can be read.  The listing of any source has one line for each fragment and is read back as the
    fragments, whose texts make up the source; so no other source has the same listing. -/
theorem listing_decodes {m : Type → Type} [Monad m] (read : Source → m (Except ReadError Text))
    (colors : Bool) {arguments : List Text} {options : Options}
    (harguments : Request.ofArguments {} arguments = .print options)
    (htokens : options.tokens = true) :
    ((Request.ofArguments {} arguments).run read colors = do
      match ← read options.source with
      | .ok source => return .success source.listing
      | .error error => return .failure (options.source.complaint error)) ∧
    ∀ source : Text, fragmentsOfListing? source.listing = some source.fragments ∧
      source.listing.count '\n' = source.fragments.length ∧
      source.fragments.flatMap Fragment.text = source ∧
      ∀ other : Text, other.listing = source.listing → other = source := by
  refine ⟨?_, fun source => ⟨fragmentsOfListing?_flatMap _, count_flatMap_listingLine _,
    flatMap_fragments source, fun other h => listing_injective h⟩⟩
  rw [harguments, Request.run]
  refine bind_congr fun result => ?_
  cases result with
  | ok source => simp [Options.present, htokens]
  | error => rfl

/-- A template literal with nothing between two substitutions, a character in the first one that
    cannot be shown, and at its end a quote that looks escaped. -/
theorem listing_decodes_template :
    Request.ofArguments {} ["--tokens".toList] = .print { tokens := true } ∧
      (Request.ofArguments {} ["--tokens".toList]).run (m := Id) (fun _ => .ok
          ['\x60', '$', '{', '\x7f', '}', '$', '{', 'a', '}', '\\', '"', '\x60']) false =
        .success (Text.listing
          ['\x60', '$', '{', '\x7f', '}', '$', '{', 'a', '}', '\\', '"', '\x60']) ∧
      fragmentsOfListing? (Text.listing
          ['\x60', '$', '{', '\x7f', '}', '$', '{', 'a', '}', '\\', '"', '\x60']) =
        some [⟨.string, ['\x60']⟩, .holeOpening, ⟨.invalid, ['\x7f']⟩, .holeClosing, ⟨.string, []⟩,
          .holeOpening, ⟨.uncolored, ['a']⟩, .holeClosing, ⟨.string, ['\\', '"', '\x60']⟩] := by
  have harguments : Request.ofArguments {} ["--tokens".toList] = .print { tokens := true } := by
    decide
  obtain ⟨hrun, hlisting⟩ := listing_decodes (m := Id) (fun _ => .ok
    ['\x60', '$', '{', '\x7f', '}', '$', '{', 'a', '}', '\\', '"', '\x60']) false harguments rfl
  refine ⟨harguments, hrun, (hlisting _).1.trans ?_⟩
  decide +kernel

end CommandLine

end SyntaxColor
