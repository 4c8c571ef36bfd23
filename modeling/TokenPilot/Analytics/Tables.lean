/-
  TokenPilot.Analytics.Tables — the columns of `usage_lines` and `rating_events`
  (packages/clickhouse/migrations/0002 and 0003) that reports and reconciliations both read.

  A reader of either extends the row with the columns that it alone names. A column of
  `Decimal(38, n)` holds a number of units of its last place.
-/

namespace TokenPilot.Analytics

structure UsageLineRow where
  applicationId : String
  eventId : String
  usageType : String
  quantity : Int

inductive RatingKind where
  | providerCost
  | aiu
  deriving DecidableEq, Repr

structure RatingEventRow where
  applicationId : String
  sourceEventId : String
  ratingEventId : String
  authorityOutboxId : Nat
  ratingKind : RatingKind
  ratingSign : Int

end TokenPilot.Analytics
