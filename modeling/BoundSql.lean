import BoundSql.Inspection.Statement
import BoundSql.Json.Entries
import BoundSql.Script.Insert
import BoundSql.Script.Select
import BoundSql.Script.Update
import BoundSql.Proofs.Script.Basic
import BoundSql.Proofs.Script.Slots
import BoundSql.Proofs.Binding.Fill
import BoundSql.Proofs.Binding.Inline
import BoundSql.Proofs.ById
import BoundSql.Proofs.Decoding.Code
import BoundSql.Proofs.Decoding.Clause
import BoundSql.Proofs.Decoding.Statement
import BoundSql.Proofs.Relation.Basic
import BoundSql.Proofs.Relation.Build
import BoundSql.Proofs.Script.Erasure
import BoundSql.Proofs.Script.Interleaving
import BoundSql.Proofs.Placeholders
import BoundSql.Proofs.Decoding.Insert
import BoundSql.Proofs.Reading.Token
import BoundSql.Proofs.Reading.Clause
import BoundSql.Proofs.Reading.Conjunction
import BoundSql.Proofs.Truncation
import BoundSql.Proofs.Log
import BoundSql.Proofs.Integer
import BoundSql.Proofs.Serial
import BoundSql.Proofs.Calendar.Chronology
import BoundSql.Proofs.Calendar.Instant
import BoundSql.Proofs.Script.History
import BoundSql.Proofs.Equality.Document
import BoundSql.Proofs.Equality.Object
import BoundSql.Proofs.Equality.Statement
import BoundSql.Proofs.Pieces
