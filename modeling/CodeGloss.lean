import CodeGloss.CommandLine.Program
import CodeGloss.Main
import CodeGloss.Pattern.Source
import CodeGloss.Proofs.CommandLine.NewSettings
import CodeGloss.Proofs.Conversation.Unreadable
import CodeGloss.Proofs.Explanation
import CodeGloss.Proofs.Explanation.Format
import CodeGloss.Proofs.Explanation.Invariance
import CodeGloss.Proofs.Explanation.Rendering
import CodeGloss.Proofs.Language.Evidence
import CodeGloss.Proofs.Measures.Glosses
import CodeGloss.Proofs.Measures.Words
import CodeGloss.Proofs.Phrase.Spellings
import CodeGloss.Proofs.Settings.Store
import CodeGloss.Proofs.Language.Guess
import CodeGloss.Proofs.Language.SharedClues
import CodeGloss.Proofs.Pattern.Padding
import CodeGloss.Proofs.Explanation.Padding
import CodeGloss.Proofs.Explanation.Summary
import CodeGloss.Proofs.Measures.GlossedLines
import CodeGloss.Proofs.Remark.Ends
import CodeGloss.Proofs.Scoring.Monotone
import CodeGloss.Proofs.Palette
import CodeGloss.Proofs.Explanation.Colors
import CodeGloss.Proofs.Phrase.Octets
import CodeGloss.Proofs.Settings.Restated
import CodeGloss.Proofs.Measures.Joined
