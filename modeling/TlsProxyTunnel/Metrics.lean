/-
What a scraper reads from `/metrics`.

Names and listen texts are written into quoted label values as they are.  The
format has escapes for three characters, and without those nothing is lost.
-/

import TlsProxyTunnel.Library.Exposition
import TlsProxyTunnel.Gauge

namespace TlsProxyTunnel

open Exposition

def entryLabels (entry : MetricsEntry) : List (List Char × List Char) :=
  [("name".toList, entry.name.toList), ("listen".toList, entry.listen.toList)]

def gaugeSamples (gauge : String) (value : MetricsEntry → Nat)
    (metrics : Metrics) : List Sample :=
  metrics.map (fun entry =>
    { metric := gauge.toList
      labels := entryLabels entry
      value := (toString (value entry)).toList
      timestamp := none })

def gaugeSeries (gauge name listen : String) : String :=
  gauge ++ "\x7bname=\"" ++ name ++ "\",listen=\"" ++ listen ++ "\"\x7d"

theorem gaugeSample_eq_series (gauge name listen : String) (value : Nat) :
    gaugeSample gauge name listen value =
      gaugeSeries gauge name listen ++ " " ++ toString value := by
  rw [← String.toList_inj]
  simp [gaugeSample, gaugeSeries]

/-- The body is read as one sample of each gauge for each entry, in order, and
as nothing else. -/
structure FaithfulBody (metrics : Metrics) (available : Semaphore → Nat) :
    Prop where
  read :
    readDocument (healthHandler "/metrics" metrics available).body.toList =
      some
        (gaugeSamples "tpt_active_connections"
            (fun entry => entry.active available) metrics ++
          gaugeSamples "tpt_maxclients" MetricsEntry.maxclientsLimit metrics)
  apart : ∀ first second, first ∈ metrics → second ∈ metrics →
    first.name ≠ second.name → ∀ gauge,
      gaugeSeries gauge first.name first.listen ≠
        gaugeSeries gauge second.name second.listen

def PlainEntry (entry : MetricsEntry) : Prop :=
  Plain entry.name.toList ∧ Plain entry.listen.toList

theorem gaugeSample_toList (gauge : String) (entry : MetricsEntry)
    (value : Nat) :
    (gaugeSample gauge entry.name entry.listen value).toList =
      writeSample gauge.toList (entryLabels entry) (toString value).toList := by
  simp [gaugeSample, writeSample, writeLabels, entryLabels]

theorem entryLabels_names (entry : MetricsEntry) :
    ∀ pair, pair ∈ entryLabels entry → IsName nameStart nameMore pair.1 := by
  simp only [entryLabels, List.forall_mem_cons]
  exact ⟨.of_all 'n' "ame".toList rfl rfl, .of_all 'l' "isten".toList rfl rfl,
    fun _ member => nomatch member⟩

theorem plainEntry_iff (entry : MetricsEntry) :
    PlainEntry entry ↔ ∀ pair, pair ∈ entryLabels entry → Plain pair.2 := by
  simp [PlainEntry, entryLabels]

theorem toString_digits (value : Nat) :
    (toString value).toList ≠ [] ∧
      ∀ c, c ∈ (toString value).toList → c.isDigit = true := by
  rw [show toString value = String.ofList (Nat.toDigits 10 value) from rfl,
    String.toList_ofList]
  exact ⟨Nat.toDigits_ne_nil,
    fun c member => Nat.isDigit_of_mem_toDigits (by decide) (by decide) member⟩

def readerLines (lines : List String) : List (List Char) :=
  lines.flatMap (fun line => line.toList.splitOn '\n')

theorem readDocument_body (metrics : Metrics) (available : Semaphore → Nat) :
    readDocument (healthHandler "/metrics" metrics available).body.toList =
      readLines (readerLines (activeLines metrics available ++
        maxclientsLines metrics)) := by
  have body : (healthHandler "/metrics" metrics available).body.toList =
      ((activeLines metrics available ++ maxclientsLines metrics).map
        String.toList).flatMap (fun text => text ++ ['\n']) := by
    rw [healthHandler, if_pos rfl]
    simp only [String.toList_join, List.flatMap_map, String.toList_append]
    rfl
  rw [body, readDocument_lines, List.flatMap_map, readerLines]

theorem readerLines_append (first second : List String) :
    readerLines (first ++ second) = readerLines first ++ readerLines second :=
  List.flatMap_append

theorem readerLines_cons (line : String) (lines : List String)
    (single : '\n' ∉ line.toList) :
    readerLines (line :: lines) = line.toList :: readerLines lines := by
  rw [readerLines, List.flatMap_cons, List.splitOn_eq_singleton single]
  rfl

theorem readLine_comment (mark rest : String)
    (hash : mark.toList.head? = some '#') :
    readLine (mark ++ rest).toList = some none := by
  obtain ⟨tail, starts⟩ := List.head?_eq_some_iff.mp hash
  rw [String.toList_append, starts]
  rfl

theorem not_feed_mem_append (first last : String)
    (noFeed : '\n' ∉ first.toList) (noneEither : '\n' ∉ last.toList) :
    '\n' ∉ (first ++ last).toList := by
  rw [String.toList_append, List.mem_append, not_or]
  exact ⟨noFeed, noneEither⟩

theorem readLines_comment (mark rest : String) (lines : List String)
    (tail : List (List Char)) (hash : mark.toList.head? = some '#')
    (markSingle : '\n' ∉ mark.toList) (restSingle : '\n' ∉ rest.toList) :
    readLines (readerLines ((mark ++ rest) :: lines) ++ tail) =
      readLines (readerLines lines ++ tail) := by
  have single := not_feed_mem_append mark rest markSingle restSingle
  rw [readerLines_cons _ _ single, List.cons_append, readLines,
    readLine_comment mark rest hash]
  simp only [Option.bind_some, Option.toList_none, List.nil_append,
    Option.map_id']

theorem readLines_gaugeLines (gauge help : String)
    (value : MetricsEntry → Nat) (metrics : Metrics)
    (tail : List (List Char)) (gaugeSingle : '\n' ∉ gauge.toList)
    (helpSingle : '\n' ∉ help.toList) :
    readLines (readerLines (gaugeLines gauge help value metrics) ++ tail) =
      readLines (readerLines (metrics.map (fun entry =>
        gaugeSample gauge entry.name entry.listen (value entry))) ++ tail) := by
  have described : '\n' ∉ (gauge ++ (" " ++ help)).toList :=
    not_feed_mem_append _ _ gaugeSingle
      (not_feed_mem_append _ _ (by decide) helpSingle)
  have typed : '\n' ∉ (gauge ++ " gauge").toList :=
    not_feed_mem_append _ _ gaugeSingle (by decide)
  rw [gaugeLines, List.cons_append, List.cons_append, List.nil_append,
    String.append_assoc, String.append_assoc, String.append_assoc,
    readLines_comment "# HELP " _ _ _ rfl (by decide) described,
    readLines_comment "# TYPE " _ _ _ rfl (by decide) typed]

theorem gaugeName_of_active : IsName metricStart metricMore
    "tpt_active_connections".toList :=
  .of_all 't' "pt_active_connections".toList rfl rfl

theorem gaugeName_of_maxclients : IsName metricStart metricMore
    "tpt_maxclients".toList :=
  .of_all 't' "pt_maxclients".toList rfl rfl

/-! ### Plain entries -/

theorem not_feed_mem_sample (gauge : String) (entry : MetricsEntry)
    (value : Nat) (single : '\n' ∉ gauge.toList) (plain : PlainEntry entry) :
    '\n' ∉ (gaugeSample gauge entry.name entry.listen value).toList := by
  have digits := (toString_digits value).2
  have number : '\n' ∉ (toString value).toList := fun member =>
    absurd (digits _ member) (by decide)
  have name := not_feed_mem_plain _ plain.1
  have listen := not_feed_mem_plain _ plain.2
  simp only [gaugeSample, String.toList_append, List.mem_append, single,
    number, name, listen, false_or, or_false]
  decide

theorem readLines_of_plain (gauge : String) (value : MetricsEntry → Nat)
    (metrics : Metrics) (tail : List (List Char))
    (isName : IsName metricStart metricMore gauge.toList)
    (plain : ∀ entry, entry ∈ metrics → PlainEntry entry) :
    readLines (readerLines (metrics.map (fun entry =>
        gaugeSample gauge entry.name entry.listen (value entry))) ++ tail) =
      (readLines tail).map (gaugeSamples gauge value metrics ++ ·) := by
  induction metrics with
  | nil =>
      cases read : readLines tail <;> simp [readerLines, gaugeSamples, read]
  | cons entry metrics ih =>
      have own := plain entry List.mem_cons_self
      have later := ih (fun other member =>
        plain other (List.mem_cons_of_mem entry member))
      obtain ⟨nonempty, digits⟩ := toString_digits (value entry)
      have line : readLine (gaugeSample gauge entry.name entry.listen
          (value entry)).toList =
          some (some
            { metric := gauge.toList
              labels := entryLabels entry
              value := (toString (value entry)).toList
              timestamp := none }) := by
        rw [gaugeSample_toList]
        exact readLine_writeSample gauge.toList (entryLabels entry) _ isName
          (entryLabels_names entry) ((plainEntry_iff entry).mp own) nonempty
          digits
      have single : '\n' ∉ (gaugeSample gauge entry.name entry.listen
          (value entry)).toList :=
        not_feed_mem_sample gauge entry (value entry)
          (not_feed_mem_metric _ isName) own
      rw [List.map_cons, readerLines_cons _ _ single, List.cons_append,
        readLines, line, Option.bind_some, later]
      cases readLines tail <;> rfl

theorem plain_of_readLines (gauge : String) (value : MetricsEntry → Nat)
    (metrics : Metrics) (tail : List (List Char)) (expected : List Sample)
    (isName : IsName metricStart metricMore gauge.toList)
    (read : readLines (readerLines (metrics.map (fun entry =>
        gaugeSample gauge entry.name entry.listen (value entry))) ++ tail) =
      some (gaugeSamples gauge value metrics ++ expected)) :
    ∀ entry, entry ∈ metrics → PlainEntry entry := by
  induction metrics with
  | nil => exact fun entry member => nomatch member
  | cons entry metrics ih =>
      obtain ⟨rest, split⟩ := splitOn_firstLine
        (gaugeSample gauge entry.name entry.listen (value entry)).toList
      rw [List.map_cons, readerLines, List.flatMap_cons, split,
        List.cons_append, List.cons_append, readLines, gaugeSample_toList]
        at read
      obtain ⟨found, line, others⟩ := Option.bind_eq_some_iff.mp read
      obtain ⟨sample, rfl⟩ := readLine_writeSample_some gauge.toList _ _ found
        isName line
      obtain ⟨samples, later, same⟩ := Option.map_eq_some_iff.mp others
      have front := (List.cons.inj same).1
      have back : samples = gaugeSamples gauge value metrics ++ expected :=
        (List.cons.inj same).2
      have own : PlainEntry entry := (plainEntry_iff entry).mpr
        (plain_of_readLine gauge.toList (entryLabels entry) _ sample isName
          (entryLabels_names entry) line (by rw [front]))
      have single := not_feed_mem_sample gauge entry (value entry)
        (not_feed_mem_metric _ isName) own
      rw [List.splitOn_eq_singleton single] at split
      obtain ⟨_, rfl⟩ := List.cons.inj split
      refine List.forall_mem_cons.mpr ⟨own, ih ?_⟩
      rw [← back]
      exact later

theorem series_apart (gauge : String) (first second : MetricsEntry)
    (plainFirst : PlainEntry first) (plainSecond : PlainEntry second)
    (different : first.name ≠ second.name) :
    gaugeSeries gauge first.name first.listen ≠
      gaugeSeries gauge second.name second.listen := by
  have series (entry : MetricsEntry) :
      (gaugeSeries gauge entry.name entry.listen).toList =
        (gauge ++ "\x7bname=\"").toList ++ (entry.name.toList ++ '"' ::
          (",listen=\"" ++ entry.listen ++ "\"\x7d").toList) := by
    simp [gaugeSeries]
  have named (entry : MetricsEntry) (plain : PlainEntry entry)
      (rest : List Char) :
      readValue (entry.name.toList ++ '"' :: rest) =
        some (entry.name.toList, rest) := by
    rw [readValue_iff, escape_of_plain _ plain.1]
  intro same
  rw [← String.toList_inj, series, series, List.append_cancel_left_eq] at same
  have values := named first plainFirst
    (",listen=\"" ++ first.listen ++ "\"\x7d").toList
  rw [same, named second plainSecond, Option.some.injEq, Prod.mk.injEq]
    at values
  exact different (String.toList_inj.mp values.1.symm)

/-- The body is read as what was reported exactly when no name and no listen
text has a character that the format escapes. -/
theorem metrics_body_faithful_iff (metrics : Metrics)
    (available : Semaphore → Nat) :
    FaithfulBody metrics available ↔
      ∀ entry, entry ∈ metrics → PlainEntry entry := by
  have body := readDocument_body metrics available
  rw [readerLines_append, activeLines,
    readLines_gaugeLines _ _ _ _ _ (by decide) (by decide)] at body
  constructor
  · rintro ⟨read, _⟩
    rw [body] at read
    exact plain_of_readLines _ _ metrics _ _ gaugeName_of_active read
  · intro plain
    refine ⟨?_, fun first second firstIn secondIn different gauge =>
      series_apart gauge first second (plain first firstIn)
        (plain second secondIn) different⟩
    have limits := readLines_of_plain "tpt_maxclients"
      MetricsEntry.maxclientsLimit metrics [] gaugeName_of_maxclients plain
    rw [← readLines_gaugeLines _ "Maximum number of concurrent connections"
      _ _ _ (by decide) (by decide), List.append_nil] at limits
    rw [body, readLines_of_plain _ _ _ _ gaugeName_of_active plain,
      maxclientsLines, limits]
    simp [readLines]

/-- Two listeners, the first of a server whose key has a quote in it. -/
def quotedMetrics : Metrics :=
  [ { name := "the \"old\" web"
      listen := "127.0.0.1:9001"
      maxclientsLimit := 8
      semaphore := ⟨0⟩ },
    { name := "mail"
      listen := "127.0.0.1:9002"
      maxclientsLimit := 8
      semaphore := ⟨1⟩ } ]

theorem quoted_name_spoils_body :
    readDocument
        (healthHandler "/metrics" quotedMetrics (fun _ => 8)).body.toList =
        none ∧
      ¬ FaithfulBody quotedMetrics (fun _ => 8) := by
  have unread : readDocument
      (healthHandler "/metrics" quotedMetrics (fun _ => 8)).body.toList =
        none := by
    have line : readLine (gaugeSample "tpt_active_connections"
        "the \"old\" web" "127.0.0.1:9001" 0).toList = none := by decide
    rw [readDocument_body, readerLines_append, activeLines,
      readLines_gaugeLines _ _ _ _ _ (by decide) (by decide), quotedMetrics,
      List.map_cons, readerLines_cons _ _ (by decide), List.cons_append,
      readLines]
    simp only [MetricsEntry.active, Nat.sub_self, line, Option.bind_none]
  refine ⟨unread, fun faithful => ?_⟩
  rw [faithful.read] at unread
  cases unread

end TlsProxyTunnel
