import Mathlib.Data.List.Infix
import ClusterPlan.Proofs.Subnet

/-!
# Paths of subnets

A subnet is named by a path in which four parts stand between fixed words. No part holds a slash, so
the parts can be told from the words in one way only: the path of four such parts is read as these
parts, and a text is read as four parts only if it is their path (`readSubnet_lossless`).

The second half holds up to one character of the fixed words, the one between the two words of the
provider's name, which is free. So two texts may be read as the same parts
(`readSubnet_free_character`). For the texts that name the provider by its name it holds as it
stands.
-/

namespace ClusterPlan

open ClusterPlan.Text

namespace Identifier.SubnetPath

/-- The text of a part, nothing if the part is left out. -/
def partText (part : Option String) : String := part.getD ""

/-- The path of four parts, with a given character between the two words of the provider's name. -/
def textWith (free : Char) (p : SubnetPath) : String :=
  "/subscriptions/" ++ partText p.subscription ++ "/resourceGroups/" ++ partText p.group ++
    "/providers/Microsoft" ++ String.singleton free ++ "Network/virtualNetworks/" ++
    partText p.network ++ "/subnets/" ++ partText p.subnet

/-- The path of four parts. -/
def text (p : SubnetPath) : String :=
  "/subscriptions/" ++ partText p.subscription ++ "/resourceGroups/" ++ partText p.group ++
    "/providers/Microsoft.Network/virtualNetworks/" ++ partText p.network ++ "/subnets/" ++
    partText p.subnet

/-- A part that is not left out and holds no slash. -/
structure IsSlashFreePart (part : Option String) : Prop where
  given : part.isSome
  slashFree : '/' ∉ (partText part).toList

/-- No part is left out or holds a slash. -/
structure IsSlashFree (p : SubnetPath) : Prop where
  subscription : IsSlashFreePart p.subscription
  group : IsSlashFreePart p.group
  network : IsSlashFreePart p.network
  subnet : IsSlashFreePart p.subnet

theorem isSlashFreePart_some {text : String} :
    IsSlashFreePart (some text) ↔ '/' ∉ text.toList :=
  ⟨fun h => h.slashFree, fun h => ⟨rfl, h⟩⟩

theorem IsSlashFreePart.eq_some {part : Option String} (h : IsSlashFreePart part) :
    part = some (partText part) := by
  obtain ⟨text, rfl⟩ := Option.isSome_iff_exists.1 h.given
  rfl

theorem toList_textWith (free : Char) (p : SubnetPath) :
    (p.textWith free).toList =
      "/subscriptions/".toList ++ ((partText p.subscription).toList ++
        ("/resourceGroups/".toList ++ ((partText p.group).toList ++
          ("/providers/Microsoft".toList ++ (free :: ("Network/virtualNetworks/".toList ++
            ((partText p.network).toList ++ ("/subnets/".toList ++
              (partText p.subnet).toList)))))))) := by
  unfold textWith
  simp only [String.toList_append, String.toList_singleton, List.append_assoc, List.cons_append,
    List.nil_append]

theorem textWith_point (p : SubnetPath) : p.textWith '.' = p.text := by
  have hwords : "/providers/Microsoft" ++ (String.singleton '.' ++ "Network/virtualNetworks/") =
      "/providers/Microsoft.Network/virtualNetworks/" := by rfl
  unfold textWith text
  rw [← hwords]
  simp only [String.append_assoc]

end Identifier.SubnetPath

namespace Identifier

variable {cs rest part : List Char}

/-! ## Words and parts -/

theorem dropPrefix?_append (word rest : List Char) : dropPrefix? word (word ++ rest) = some rest :=
  List.isPrefixOf?_eq_some_iff_append_eq.2 rfl

theorem eq_append_of_dropPrefix? {word : List Char} (h : dropPrefix? word cs = some rest) :
    cs = word ++ rest :=
  (List.isPrefixOf?_eq_some_iff_append_eq.1 h).symm

theorem cutPart_append (hpart : '/' ∉ part) (hrest : StopsAt (· != '/') rest) :
    cutPart (part ++ rest) = (part, rest) := by
  have hrun : ∀ c ∈ part, (c != '/') = true := by
    intro c hc
    rw [bne_iff_ne]
    rintro rfl
    exact hpart hc
  obtain ⟨htake, hdrop⟩ := takeWhile_run hrun hrest
  rw [cutPart, htake, hdrop]

/-- A part ends where a word begins that begins with a slash. -/
theorem cutPart_append_word (hpart : '/' ∉ part) (word : List Char)
    (hword : word.head? = some '/') :
    cutPart (part ++ (word ++ rest)) = (part, word ++ rest) := by
  apply cutPart_append hpart
  intro c hc
  rw [List.head?_append, hword] at hc
  cases hc
  rfl

theorem cutPart_spec (cs : List Char) :
    cs = (cutPart cs).1 ++ (cutPart cs).2 ∧ '/' ∉ (cutPart cs).1 := by
  refine ⟨List.takeWhile_append_dropWhile.symm, fun h => ?_⟩
  have hne := List.all_eq_true.1 List.all_takeWhile _ h
  exact absurd rfl (bne_iff_ne.1 hne)

theorem dropProvider?_append {before after : String} {free : Char} (hfree : free ≠ '\n') :
    dropProvider? before after (before.toList ++ (free :: (after.toList ++ rest))) = some rest := by
  rw [dropProvider?, dropPrefix?_append]
  simp only [if_neg hfree]
  exact dropPrefix?_append _ _

theorem eq_append_of_dropProvider? {before after : String}
    (h : dropProvider? before after cs = some rest) :
    ∃ free, free ≠ '\n' ∧ cs = before.toList ++ (free :: (after.toList ++ rest)) := by
  unfold dropProvider? at h
  split at h
  · next free tail hbefore =>
    split at h
    · cases h
    · next hfree =>
      refine ⟨free, hfree, ?_⟩
      rw [eq_append_of_dropPrefix? hbefore, eq_append_of_dropPrefix? h]
  · cases h

namespace SubnetPath

/-- What a path is read as. -/
theorem read?_eq_some {s : String} {p : SubnetPath} :
    read? s = some p ↔ p.IsSlashFree ∧ ∃ free, free ≠ '\n' ∧ s = p.textWith free := by
  constructor
  · intro h
    simp only [read?, Option.bind_eq_bind, Option.bind_eq_some_iff] at h
    obtain ⟨r₁, h₁, r₂, h₂, r₃, h₃, r₄, h₄, h⟩ := h
    obtain ⟨e₁, f₁⟩ := cutPart_spec r₁
    obtain ⟨e₂, f₂⟩ := cutPart_spec r₂
    obtain ⟨e₃, f₃⟩ := cutPart_spec r₃
    obtain ⟨e₄, f₄⟩ := cutPart_spec r₄
    obtain ⟨free, hfree, e₅⟩ := eq_append_of_dropProvider? h₃
    split at h
    · next hend =>
      cases h
      refine ⟨⟨?_, ?_, ?_, ?_⟩, free, hfree, ?_⟩
      · rwa [isSlashFreePart_some, String.toList_ofList]
      · rwa [isSlashFreePart_some, String.toList_ofList]
      · rwa [isSlashFreePart_some, String.toList_ofList]
      · rwa [isSlashFreePart_some, String.toList_ofList]
      · apply String.toList_injective
        rw [toList_textWith]
        simp only [partText, Option.getD_some, String.toList_ofList]
        rw [List.isEmpty_iff.1 hend, List.append_nil] at e₄
        rw [← e₄, ← eq_append_of_dropPrefix? h₄, ← e₃, ← e₅, ← e₂, ← eq_append_of_dropPrefix? h₂,
          ← e₁, ← eq_append_of_dropPrefix? h₁]
    · cases h
  · rintro ⟨hp, free, hfree, rfl⟩
    have hend : cutPart ((partText p.subnet).toList ++ []) = ((partText p.subnet).toList, []) :=
      cutPart_append hp.subnet.slashFree nofun
    rw [List.append_nil] at hend
    rw [read?, toList_textWith]
    simp only [Option.bind_eq_bind, Option.bind_some, dropPrefix?_append,
      cutPart_append_word hp.subscription.slashFree "/resourceGroups/".toList rfl,
      cutPart_append_word hp.group.slashFree "/providers/Microsoft".toList rfl,
      dropProvider?_append hfree,
      cutPart_append_word hp.network.slashFree "/subnets/".toList rfl, hend]
    simp only [List.isEmpty_nil, if_true, String.ofList_toList]
    rw [← hp.subscription.eq_some, ← hp.group.eq_some, ← hp.network.eq_some, ← hp.subnet.eq_some]

/-! ## The provider's name -/

/-- A text in which the provider's name stands between slashes, after the word for providers. -/
def NamesProvider (s : String) : Prop := "/providers/Microsoft.Network/".toList <:+: s.toList

/-- The pieces of a path of four parts. -/
theorem splitOn_textWith {p : SubnetPath} (hp : p.IsSlashFree) (free : Char) :
    splitOn '/' (p.textWith free).toList =
      ["".toList, "subscriptions".toList, (partText p.subscription).toList,
        "resourceGroups".toList, (partText p.group).toList, "providers".toList] ++
      splitOn '/' ("Microsoft".toList ++ free :: "Network".toList) ++
      ["virtualNetworks".toList, (partText p.network).toList, "subnets".toList,
        (partText p.subnet).toList] := by
  have hwords : "/subscriptions/".toList = "".toList ++ '/' :: ("subscriptions".toList ++ ['/']) ∧
      "/resourceGroups/".toList = '/' :: ("resourceGroups".toList ++ ['/']) ∧
      "/providers/Microsoft".toList = '/' :: ("providers".toList ++ '/' :: "Microsoft".toList) ∧
      "Network/virtualNetworks/".toList =
        "Network".toList ++ '/' :: ("virtualNetworks".toList ++ ['/']) ∧
      "/subnets/".toList = '/' :: ("subnets".toList ++ ['/']) := ⟨rfl, rfl, rfl, rfl, rfl⟩
  have hname (rest : List Char) :
      "Microsoft".toList ++ free :: ("Network".toList ++ '/' :: rest) =
        ("Microsoft".toList ++ free :: "Network".toList) ++ '/' :: rest := by
    rw [List.append_assoc, List.cons_append]
  rw [toList_textWith]
  simp only [hwords, List.append_assoc, List.cons_append, List.nil_append]
  rw [splitOn_append_of_not_mem (by decide), splitOn_append_of_not_mem (by decide),
    splitOn_append_of_not_mem hp.subscription.slashFree, splitOn_append_of_not_mem (by decide),
    splitOn_append_of_not_mem hp.group.slashFree, splitOn_append_of_not_mem (by decide), hname,
    splitOn_append, splitOn_append_of_not_mem (by decide),
    splitOn_append_of_not_mem hp.network.slashFree, splitOn_append_of_not_mem (by decide),
    splitOn_of_not_mem hp.subnet.slashFree]

/-- The pieces of a text that names the provider. -/
theorem NamesProvider.infix_splitOn {s : String} (h : NamesProvider s) :
    ["providers".toList, "Microsoft.Network".toList] <:+: splitOn '/' s.toList := by
  obtain ⟨before, after, h⟩ := h
  have hwords : before ++ "/providers/Microsoft.Network/".toList ++ after =
      before ++ '/' :: ("providers".toList ++ '/' :: ("Microsoft.Network".toList ++
        '/' :: after)) := by
    rw [List.append_assoc]
    rfl
  rw [← h, hwords, splitOn_append, splitOn_append_of_not_mem (by decide),
    splitOn_append_of_not_mem (by decide)]
  exact ⟨splitOn '/' before, splitOn '/' after, by rw [List.append_assoc]; rfl⟩

theorem eq_point_of_namesProvider {p : SubnetPath} (hp : p.IsSlashFree) {free : Char}
    (h : NamesProvider (p.textWith free)) : free = '.' := by
  have hinfix := h.infix_splitOn
  rw [splitOn_textWith hp] at hinfix
  -- a slash would cut the name in two; with any other character the name is one piece
  by_cases hslash : free = '/'
  · subst hslash
    rw [splitOn_append, splitOn_of_not_mem (by decide), splitOn_of_not_mem (by decide)] at hinfix
    simp [List.infix_cons_iff, List.cons_prefix_cons] at hinfix
  · have hpiece : '/' ∉ "Microsoft".toList ++ free :: "Network".toList := by
      simpa using Ne.symm hslash
    rw [splitOn_of_not_mem hpiece] at hinfix
    have hname : '.' = free := by
      simpa [List.infix_cons_iff, List.cons_prefix_cons] using hinfix
    exact hname.symm

theorem namesProvider_text (p : SubnetPath) : NamesProvider p.text := by
  have hword : "/providers/Microsoft.Network/virtualNetworks/".toList =
      "/providers/Microsoft.Network/".toList ++ "virtualNetworks/".toList := by rfl
  unfold NamesProvider text
  simp only [String.toList_append, hword]
  refine ⟨"/subscriptions/".toList ++ (partText p.subscription).toList ++
    "/resourceGroups/".toList ++ (partText p.group).toList,
    "virtualNetworks/".toList ++ (partText p.network).toList ++ "/subnets/".toList ++
      (partText p.subnet).toList, ?_⟩
  simp only [List.append_assoc]

end SubnetPath

end Identifier

open Identifier

theorem readSubnet_eq_ok {s : String} {p : SubnetPath} :
    readSubnet s = .ok p ↔ p.IsSlashFree ∧ ∃ free, free ≠ '\n' ∧ s = p.textWith free := by
  have hread : Patterns.standard.subnetPath s = (SubnetPath.read? s).map SubnetPath.parts := rfl
  rw [← SubnetPath.read?_eq_some, readSubnet, hread]
  cases SubnetPath.read? s with
  | none => simp
  | some q => simp [SubnetPath.ofParts?_parts]

/-- **Paths without loss.** The path of four parts free of slashes is read as these parts, and a
text that is read as four parts is their path with some character between the two words of the
provider's name. The texts that name the provider are read as four parts only if they are the path
of these. Every other text is told as a wrong path. -/
theorem readSubnet_lossless (s : String) (p : SubnetPath) :
    (p.IsSlashFree → readSubnet p.text = .ok p) ∧
    (readSubnet s = .ok p ↔ p.IsSlashFree ∧ ∃ free, free ≠ '\n' ∧ s = p.textWith free) ∧
    (readSubnet s = .ok p ∧ SubnetPath.NamesProvider s ↔ p.IsSlashFree ∧ s = p.text) ∧
    (∀ fault, readSubnet s = .error fault → fault = .malformed (.subnetPath s)) := by
  have htext : p.IsSlashFree → readSubnet p.text = .ok p := by
    intro hp
    rw [readSubnet_eq_ok, ← p.textWith_point]
    exact ⟨hp, '.', by decide, rfl⟩
  refine ⟨htext, readSubnet_eq_ok, ⟨?_, ?_⟩, ?_⟩
  · rintro ⟨hread, hname⟩
    obtain ⟨hp, free, -, rfl⟩ := readSubnet_eq_ok.1 hread
    rw [SubnetPath.eq_point_of_namesProvider hp hname, SubnetPath.textWith_point]
    exact ⟨hp, rfl⟩
  · rintro ⟨hp, rfl⟩
    exact ⟨htext hp, p.namesProvider_text⟩
  · intro fault h
    rcases (readSubnet_meets s).of_error h with hfault | ⟨-, parts, hparts, hcount⟩
    · exact hfault
    · obtain ⟨q, -, rfl⟩ := Option.map_eq_some_iff.1 hparts
      exact absurd rfl hcount

/-- A path without the point of the provider's name is read as the parts of the path with it. -/
theorem readSubnet_free_character :
    let parts : SubnetPath := ⟨"a", "b", "c", "d"⟩
    let other := "/subscriptions/a/resourceGroups/b/providers/MicrosoftXNetwork" ++
      "/virtualNetworks/c/subnets/d"
    readSubnet other = .ok parts ∧ readSubnet parts.text = .ok parts ∧ other ≠ parts.text := by
  decide +kernel

end ClusterPlan
