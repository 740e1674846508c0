import LibcdioRs.LargeFiles
import LibcdioRs.LocalTime
import LibcdioRs.Mmc.Features
import LibcdioRs.Mmc.FeatureLayout
import LibcdioRs.Mmc.DiscInfoQueries
import LibcdioRs.Mmc.TocQueries
import LibcdioRs.Mmc.ChangingAnswers
import LibcdioRs.Mmc.CommandBlocks
import LibcdioRs.Mmc.EventQueries
import LibcdioRs.Mmc.SubchannelQueries
import LibcdioRs.ClientThreads
import LibcdioRs.FileReaders
import LibcdioRs.Opening
import LibcdioRs.Mmc.Identifiers
import LibcdioRs.Mmc.TrayState
